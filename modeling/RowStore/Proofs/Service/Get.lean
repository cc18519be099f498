import RowStore.Proofs.Query.Inserted
import RowStore.Proofs.Service.Action
import RowStore.Proofs.Table.Sorted

/-!
# Getting one row

A row is looked for by putting its key into the query of the caller. What the query asks of the key field is lost that
way, and its bounds apply before the rows are counted.
-/

namespace RowStore

set_option autoImplicit false

namespace Controls

/-- The rows that are given of those that match: sorted, without the ones passed over, and no more than the limit. -/
def page (controls : Controls) (rows : List Record) : List Record :=
  if controls.limit = some 0 then []
  else Table.slice controls.skip controls.limit (Table.sortRows controls.sort rows)

/-- A row as it is given: the selected columns, the key first. -/
def shown (controls : Controls) (key : String) (row : Record) : Record :=
  Table.project (controls.select.map (Plan.keyFirst key)) row

end Controls

/-- Bounds leave one row of those that match just when exactly one is left after those passed over, or when the limit
cuts all others off. -/
theorem Controls.length_page_eq_one_iff (controls : Controls) (rows : List Record) :
    (controls.page rows).length = 1 ↔ controls.limit ≠ some 0 ∧
      (rows.length = controls.skip.getD 0 + 1 ∨
        controls.skip.getD 0 < rows.length ∧ controls.limit = some 1) := by
  unfold page
  by_cases hzero : controls.limit = some 0
  · simp [hzero]
  · rw [if_neg hzero, Table.length_slice, Table.length_sortRows]
    cases hlimit : controls.limit with
    | none =>
      simp only [ne_eq, reduceCtorEq, not_false_eq_true, true_and, and_false, or_false]
      omega
    | some limit =>
      have hne : limit ≠ 0 := fun he => hzero (he ▸ hlimit)
      simp only [ne_eq, Option.some.injEq, hne, not_false_eq_true, true_and]
      omega

theorem Controls.page_singleton {controls : Controls} (hskip : controls.skip.getD 0 = 0)
    (hzero : controls.limit ≠ some 0) (row : Record) : controls.page [row] = [row] := by
  unfold page Table.slice
  rw [if_neg hzero, Table.sortRows_singleton, hskip, List.drop_zero]
  cases hlimit : controls.limit with
  | none => rfl
  | some limit =>
    cases limit with
    | zero => exact absurd hlimit hzero
    | succ n => simp

/-- Without bounds that could cut a row off, one row is given just when one matches. -/
theorem Controls.page_eq_singleton_iff {controls : Controls} (hskip : controls.skip.getD 0 = 0)
    (hzero : controls.limit ≠ some 0) (hone : controls.limit ≠ some 1) (rows : List Record) (row : Record) :
    controls.page rows = [row] ↔ rows = [row] := by
  constructor
  · intro h
    obtain ⟨_, hrows⟩ := (controls.length_page_eq_one_iff rows).mp (by rw [h]; rfl)
    rw [hskip] at hrows
    have hlength : rows.length = 1 := hrows.resolve_right fun hlimit => hone hlimit.2
    obtain ⟨other, rfl⟩ := List.length_eq_one_iff.mp hlength
    rwa [page_singleton hskip hzero] at h
  · rintro rfl
    exact page_singleton hskip hzero row

/-- A query that has plans has a clause. -/
theorem Plan.exists_clause {key : String} {q : Query} {plans : Plans} (h : ofQuery key q = .ok plans) :
    ∃ clause, Clause.compile q.predicate = .ok clause := by
  rw [ofQuery] at h
  cases hc : Clause.compile q.predicate with
  | error e =>
    rw [hc] at h
    cases h
  | ok clause => exact ⟨clause, rfl⟩

namespace Service

/-- The rows whose key field equals a value and of which a clause holds. -/
def keyed {σ : Type} (service : Service σ) (id : Value) (clause : Clause) (table : Table) : List Record :=
  table.rows.filter fun row => Comparison.equal.holds (row.cell service.id) id && clause.holds row

/-- One row is an answer; none or several are none. -/
def single (id : Value) : List Record → Except ServiceError Record
  | [row] => .ok row
  | _ => .error (.noRecord id)

theorem single_eq_ok_iff {id : Value} {rows : List Record} {row : Record} :
    single id rows = .ok row ↔ rows = [row] := by
  unfold single
  split
  · simp
  · rename_i hne
    constructor
    · exact nofun
    · intro he
      exact absurd he (hne row)

theorem single_eq_error {id : Value} {rows : List Record} (h : rows.length ≠ 1) :
    single id rows = .error (.noRecord id) := by
  unfold single
  split
  · exact absurd rfl h
  · rfl

theorem on_single {σ : Type} (id : Value) (rows : List Record) (s : σ) :
    Action.on (match rows with
      | [row] => pure row
      | _ => throw (.noRecord id)) s = (single id rows, s) := by
  match rows with
  | [] => rfl
  | [row] => rfl
  | _ :: _ :: _ => rfl

section

variable {service : Service Table} {id : Value} {params : Params} {q : Query} {clause : Clause} {table : Table}

theorem fields?_eq_none (hid : (∃ n, id = .number n) ∨ ∃ s, id = .string s) : id.fields? = none := by
  rcases hid with ⟨n, rfl⟩ | ⟨s, rfl⟩ <;> rfl

/-- The rows of a table that a query gives. -/
theorem pageRows_ofQuery (key : String) {q : Query} (hc : Clause.compile q.predicate = .ok clause) (table : Table) :
    ∃ plans, Plan.ofQuery key q = .ok plans ∧ pageRows table plans =
      (q.controls.page (table.rows.filter fun row => clause.holds row)).map (q.controls.shown key) := by
  refine ⟨_, by rw [Plan.ofQuery, hc]; rfl, ?_⟩
  by_cases hlimit : q.controls.limit = some 0
  · simp only [pageRows, Controls.page, hlimit, if_true, List.map_nil]
  · have hskip : (q.controls.skip.filter fun n => decide (0 < n)).getD 0 = q.controls.skip.getD 0 := by
      cases q.controls.skip with
      | none => rfl
      | some n => cases n <;> rfl
    simp only [pageRows, Controls.page, hlimit, if_false, Table.fetch, Table.slice, Table.matching, hskip]
    rfl

/-- A row is looked for among those that satisfy the query with the key put into it. -/
theorem getRow_of_query (hs : service.storage = Table.storage) {q : Query}
    (hq : Query.ofFields (Entries.insert service.id id params.query) none = .ok q)
    (hc : Clause.compile q.predicate = .ok clause) (table : Table) :
    (service.getRow id params).on table = (single id ((q.controls.page
      (table.rows.filter fun row => clause.holds row)).map (q.controls.shown service.id)), table) := by
  obtain ⟨plans, hplans, hpage⟩ := pageRows_ofQuery service.id hc table
  unfold getRow
  rw [Action.on_bind_ok _ (findRows_on hs hq hplans table), hpage]
  exact on_single id _ table

/-- Over a table, a row is looked for by a query, which may be faulty; the table stays as it is. -/
theorem getRow_cases (hs : service.storage = Table.storage) (id : Value) (params : Params) (table : Table) :
    (∃ fault, (service.getRow id params).on table = (.error (.query fault), table)) ∨
      ∃ q clause, Query.ofFields (Entries.insert service.id id params.query) none = .ok q ∧
        Clause.compile q.predicate = .ok clause ∧
        (service.getRow id params).on table = (single id ((q.controls.page
          (table.rows.filter fun row => clause.holds row)).map (q.controls.shown service.id)), table) := by
  rcases findRows_cases hs (Entries.insert service.id id params.query) none table with
    ⟨fault, hfault⟩ | ⟨q, plans, hq, hplans, _⟩
  · refine .inl ⟨fault, ?_⟩
    unfold getRow
    exact Action.on_bind_error _ hfault
  · obtain ⟨clause, hc⟩ := Plan.exists_clause hplans
    exact .inr ⟨q, clause, hq, hc, getRow_of_query hs hq hc table⟩

/-- What a key and a query find in a table: what the query asks of the key field has no part in it. -/
theorem getRow_on (hs : service.storage = Table.storage) (hid : (∃ n, id = .number n) ∨ ∃ s, id = .string s)
    (hname : Predicate.isReserved service.id = false) (hd : Entries.Distinct params.query)
    (hq : Query.ofFields params.query none = .ok q) (hc : Clause.compile q.predicate = .ok clause) (table : Table) :
    ∃ rest, Clause.compile (q.predicate.without service.id) = .ok rest ∧
      (service.getRow id params).on table =
        (single id ((q.controls.page (service.keyed id rest table)).map (q.controls.shown service.id)), table) := by
  have hdp := Query.distinct_predicate hd hq
  obtain ⟨found, rest, hfound, hrest, hholds⟩ := Predicate.compile_insert hdp hname (fields?_eq_none hid) hc
  have hrows : (table.rows.filter fun row => found.holds row) = service.keyed id rest table := by
    apply List.filter_congr
    intro row _
    rw [Bool.eq_iff_iff, hholds row, Bool.and_eq_true, Comparison.holds_equal_iff]
  refine ⟨rest, hrest, ?_⟩
  rw [getRow_of_query hs (Query.ofFields_insert (Query.not_mem_controls hname) id hq) hfound, hrows]

theorem keyed_congr {rest : Clause} (hrest : Clause.compile (q.predicate.without service.id) = .ok rest)
    (hc : Clause.compile q.predicate = .ok clause) (h : q.predicate.lookup service.id = none) :
    rest = clause := by
  rw [Predicate.without_eq_self h, hc] at hrest
  cases hrest
  rfl

theorem get_on_of_getRow_ok {row : Record} (h : (service.getRow id params).on table = (.ok row, table)) :
    (service.get id params).on table = (.ok row, table) := by
  rw [get, on_report, h]

theorem get_on_of_getRow_error {e : ServiceError} (h : (service.getRow id params).on table = (.error e, table)) :
    (service.get id params).on table = (.error (service.hook e), table) := by
  rw [get, on_report, h]

/-- A get over a table, by what its search for the row comes to. -/
theorem get_on_of_single {rows : List Record}
    (hon : (service.getRow id params).on table = (single id (rows.map (q.controls.shown service.id)), table)) :
    (∀ record, (service.get id params).on table = (.ok record, table) ↔
      ∃ row, rows = [row] ∧ record = q.controls.shown service.id row) ∧
    (rows.length ≠ 1 → (service.get id params).on table = (.error (service.hook (.noRecord id)), table)) := by
  have hget : (service.get id params).on table = match single id (rows.map (q.controls.shown service.id)) with
      | .ok record => (.ok record, table)
      | .error e => (.error (service.hook e), table) := by
    rw [get, on_report, hon]
    generalize single id _ = outcome
    cases outcome <;> rfl
  constructor
  · intro record
    have hsingle : (service.get id params).on table = (.ok record, table) ↔
        single id (rows.map (q.controls.shown service.id)) = .ok record := by
      rw [hget]
      split <;> simp_all
    rw [hsingle, single_eq_ok_iff, List.map_eq_singleton_iff]
    simp only [eq_comm]
  · intro hone
    rw [hget, single_eq_error (by rwa [List.length_map])]

/-- With a reserved name for the key field, a get fails, or takes the key for a control and gives the one row that is
left of those that satisfy the query. -/
theorem get_on_reserved (hs : service.storage = Table.storage) (hid : (∃ n, id = .number n) ∨ ∃ s, id = .string s)
    (hname : Predicate.isReserved service.id = true) (hd : Entries.Distinct params.query)
    (hq : Query.ofFields params.query none = .ok q) (hc : Clause.compile q.predicate = .ok clause) (table : Table) :
    (∃ e, (e = .noRecord id ∨ ∃ fault, e = .query fault) ∧
      (service.get id params).on table = (.error (service.hook e), table)) ∨
    service.id ∈ Controls.keys ∧ ∃ (controls : Controls) (row : Record),
      controls.page (table.rows.filter fun row => clause.holds row) = [row] ∧
      (service.get id params).on table = (.ok (controls.shown service.id row), table) := by
  rcases getRow_cases hs id params table with ⟨fault, hfault⟩ | ⟨q', found, hq', hfound, hrow⟩
  · exact .inl ⟨.query fault, .inr ⟨fault, rfl⟩, get_on_of_getRow_error hfault⟩
  · have hpredicate := Query.predicate_ofFields hq'
    by_cases hcontrol : service.id ∈ Controls.keys
    · rw [Query.predicateOf_insert_control hcontrol, ← Query.predicate_ofFields hq] at hpredicate
      rw [hpredicate, hc] at hfound
      cases hfound
      obtain ⟨hok, herror⟩ := get_on_of_single hrow
      by_cases hone : (q'.controls.page (table.rows.filter fun row => clause.holds row)).length = 1
      · obtain ⟨row, hpageRow⟩ := List.length_eq_one_iff.mp hone
        exact .inr ⟨hcontrol, q'.controls, row, hpageRow, (hok _).mpr ⟨row, hpageRow, rfl⟩⟩
      · exact .inl ⟨.noRecord id, .inl rfl, herror hone⟩
    · have hdp := Query.distinct_predicate hd hq
      rw [Query.predicateOf_insert hcontrol, ← Query.predicate_ofFields hq] at hpredicate
      have hitems : ∀ items, id ≠ .array items := by
        rcases hid with ⟨n, rfl⟩ | ⟨s, rfl⟩ <;> exact fun _ => nofun
      rw [hpredicate] at hfound
      obtain ⟨hwell, _⟩ := Clause.compile_eq_ok_iff.mp hfound
      exact absurd hwell (Predicate.not_wellFormed_insert hdp hname hitems)

/-- A get gives a record just when one row is left, by the bounds of the query, of those that have the key and satisfy
what the query asks of the other fields; else there is no such record, and the table stays as it is either way. Without
such bounds, and without a condition of its own on the key field, a query gives the one row that has the key and
satisfies it. If the name of the key field is reserved, the key is not looked for at all. -/
theorem get_on_iff (hs : service.storage = Table.storage) (hid : (∃ n, id = .number n) ∨ ∃ s, id = .string s)
    (hd : Entries.Distinct params.query) (hq : Query.ofFields params.query none = .ok q)
    (hc : Clause.compile q.predicate = .ok clause) (table : Table) :
    (Predicate.isReserved service.id = false → ∃ rest, Clause.compile (q.predicate.without service.id) = .ok rest ∧
      (∀ record, (service.get id params).on table = (.ok record, table) ↔
        ∃ row, q.controls.page (service.keyed id rest table) = [row] ∧ record = q.controls.shown service.id row) ∧
      ((∃ record, (service.get id params).on table = (.ok record, table)) ↔ q.controls.limit ≠ some 0 ∧
        ((service.keyed id rest table).length = q.controls.skip.getD 0 + 1 ∨
          q.controls.skip.getD 0 < (service.keyed id rest table).length ∧ q.controls.limit = some 1)) ∧
      ((∃ record, (service.get id params).on table = (.ok record, table)) ∨
        (service.get id params).on table = (.error (service.hook (.noRecord id)), table)) ∧
      (q.predicate.lookup service.id = none → q.controls.skip.getD 0 = 0 → q.controls.limit ≠ some 0 →
        q.controls.limit ≠ some 1 → ∀ record, (service.get id params).on table = (.ok record, table) ↔
          ∃ row, service.keyed id clause table = [row] ∧ record = q.controls.shown service.id row)) ∧
    (Predicate.isReserved service.id = true →
      (∃ e, (e = .noRecord id ∨ ∃ fault, e = .query fault) ∧
        (service.get id params).on table = (.error (service.hook e), table)) ∨
      service.id ∈ Controls.keys ∧ ∃ (controls : Controls) (row : Record),
        controls.page (table.rows.filter fun row => clause.holds row) = [row] ∧
        (service.get id params).on table = (.ok (controls.shown service.id row), table)) := by
  refine ⟨?_, fun hname => get_on_reserved hs hid hname hd hq hc table⟩
  intro hname
  obtain ⟨rest, hrest, hon⟩ := getRow_on hs hid hname hd hq hc table
  obtain ⟨hok, herror⟩ := get_on_of_single hon
  have hlength : (∃ record, (service.get id params).on table = (.ok record, table)) ↔
      (q.controls.page (service.keyed id rest table)).length = 1 := by
    rw [List.length_eq_one_iff]
    constructor
    · rintro ⟨record, hrecord⟩
      obtain ⟨row, hrow, _⟩ := (hok record).mp hrecord
      exact ⟨row, hrow⟩
    · rintro ⟨row, hrow⟩
      exact ⟨_, (hok _).mpr ⟨row, hrow, rfl⟩⟩
  refine ⟨rest, hrest, hok, ?_, ?_, ?_⟩
  · rw [hlength, Controls.length_page_eq_one_iff]
  · by_cases hone : (q.controls.page (service.keyed id rest table)).length = 1
    · exact .inl (hlength.mpr hone)
    · exact .inr (herror hone)
  · intro hlookup hskip hzero hone record
    rw [hok, keyed_congr hrest hc hlookup]
    simp only [Controls.page_eq_singleton_iff hskip hzero hone]

end

def standard : Service Table := ⟨Table.storage, standardId, standardName, .off, [], fun e => e⟩

def people : Table where
  name := "people"
  key := "id"
  columns := ["id", "name"]
  defaults := []
  rows := [[("id", .ofInt 1), ("name", .string "Ada")], [("id", .ofInt 2), ("name", .string "Bo")]]
  nextId := 3

/-- Ada is found by her number and name. -/
theorem get_on_iff_ada :
    (standard.get (.ofInt 1) ⟨[("name", .string "Ada"), ("$limit", .ofInt 5)], none⟩).on people
      = (.ok [("id", .ofInt 1), ("name", .string "Ada")], people) := by
  have hstorage : standard.storage = Table.storage := rfl
  have hid : (∃ n, Value.ofInt 1 = .number n) ∨ ∃ s, Value.ofInt 1 = .string s := .inl ⟨_, rfl⟩
  have hdistinct : Entries.Distinct
      (Params.mk [("name", .string "Ada"), ("$limit", .ofInt 5)] none).query := by
    unfold Entries.Distinct
    decide
  obtain ⟨hplain, _⟩ := get_on_iff hstorage hid hdistinct rfl rfl people
  obtain ⟨_, _, _, _, _, hwhole⟩ := hplain (by decide)
  refine (hwhole rfl rfl (by decide) (by decide) _).mpr ⟨_, ?_, rfl⟩
  decide +kernel

/-- A query that asks for another number does not keep a row from being found. -/
theorem not_forall_get_on_iff :
    ¬ ∀ (id : Value) (params : Params) (q : Query) (clause : Clause), Query.ofFields params.query none = .ok q →
      Clause.compile q.predicate = .ok clause →
      (((standard.get id params).on people).1.toOption.isSome = true ↔ (standard.keyed id clause people).length = 1) := by
  intro h
  have hother := h (.ofInt 1) ⟨[("id", .ofInt 2)], none⟩ _ _ rfl rfl
  have hfound : ((standard.get (.ofInt 1) ⟨[("id", .ofInt 2)], none⟩).on people).1.toOption.isSome = true := by
    decide +kernel
  revert hother
  rw [hfound]
  decide +kernel

end Service

end RowStore
