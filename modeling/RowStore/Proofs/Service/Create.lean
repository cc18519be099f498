import RowStore.Proofs.Service.Get
import RowStore.Proofs.Table.Rows

/-!
# Creating one record

A record is inserted and then looked for by its key, and what is inserted stays when it is not found. This happens when
another row has an equal key, which the sequence does not prevent, and when the key is an object, since a query takes it
for operators.
-/

namespace RowStore

set_option autoImplicit false

namespace Table

variable {table next : Table} {attributes row : Record} {id : Value}

/-- A row that an insert puts into a table under a key. -/
structure Inserted (table : Table) (attributes : Record) (id : Value) (row : Record) : Prop where
  names_eq : Entries.names row = table.columns
  key_eq : Record.key? row table.key = some id
  cells_eq : ∀ column ∈ table.columns, column ≠ table.key →
    row.lookup column = some (((attributes.lookup column) <|> (table.defaults.lookup column)).getD .null)

theorem inserted_newRow (hkey : table.key ∈ table.columns) (hid : id ≠ .null) :
    Inserted table attributes id (table.newRow id attributes) := by
  refine ⟨names_newRow, key?_newRow hkey hid, ?_⟩
  intro column hm hne
  rw [lookup_newRow hm, initial, if_neg hne]

/-- An insert that succeeds puts one row at the end. A key that is given is equal to no other. -/
theorem inserted_of_insert (hkey : table.key ∈ table.columns) (h : table.insert attributes = .ok (id, next)) :
    id ≠ .null ∧ next.key = table.key ∧
      (∃ row, next.rows = table.rows ++ [row] ∧ Inserted table attributes id row) ∧
      ((Record.key? attributes table.key).isSome = true → ∀ k ∈ table.keys, k.same id = false) := by
  rcases insert_cases h with ⟨_, hk, hfresh, rfl⟩ | ⟨_, hk, rfl, rfl⟩
  · have hid := key?_ne_null hk
    exact ⟨hid, rfl, ⟨_, rfl, inserted_newRow hkey hid⟩, fun _ => any_hasKey_eq_false_iff.mp hfresh⟩
  · have hid : Value.ofInt table.nextId ≠ .null := nofun
    refine ⟨hid, rfl, ⟨_, rfl, inserted_newRow hkey hid⟩, ?_⟩
    rw [hk]
    exact nofun

theorem equals_cell_iff (hid : id ≠ .null) :
    (row.cell table.key).Equals id ↔ table.hasKey id row = true := by
  rw [Value.Equals, if_neg hid, hasKey_iff, Record.cell, Record.key?]
  cases row.lookup table.key with
  | none => simp
  | some k => simp [Option.filter_some]

end Table

namespace Service

/-- A create gives the row that it puts at the end, or leaves the rows as they are. -/
def AllOrNothing (service : Service Table) (table : Table) (attributes : Record) : Prop :=
  match (service.create (.one attributes) .none).on table with
  | (.ok data, next) => next.rows = table.rows ++ data.toList
  | (.error _, next) => next.rows = table.rows

section

variable {service : Service Table} {table next : Table} {attributes : Record} {id : Value} {params : Params}
  {clause : Clause}

theorem create_one_of_error (hs : service.storage = Table.storage) {e : TableError}
    (h : table.insert attributes = .error e) :
    (service.create (.one attributes) params).on table = (.error (service.hook (.storage e.message)), table) := by
  have hask : service.storage.insert attributes table = (.error e.message, table) := by
    rw [hs]
    simp only [Table.storage, h, Table.replyOf]
  have hrow : (service.createRow params attributes).on table = (.error (.storage e.message), table) :=
    Action.on_bind_error _ (Action.on_ask_error hask)
  rw [create, on_report, Action.on_map, hrow]

/-- After an insert, a create gives what a get by the new key gives. -/
theorem create_one_of_ok (hs : service.storage = Table.storage) (h : table.insert attributes = .ok (id, next))
    (params : Params) :
    (service.create (.one attributes) params).on table = match (service.get id params).on next with
      | (.ok row, last) => (.ok (.one row), last)
      | (.error e, last) => (.error e, last) := by
  have hask : service.storage.insert attributes table = (.ok id, next) := by
    rw [hs]
    simp only [Table.storage, h, Table.replyOf]
  have hrow : (service.createRow params attributes).on table = (service.getRow id params).on next :=
    Action.on_bind_ok _ (Action.on_ask_ok hask)
  rw [create, on_report, Action.on_map, hrow, get, on_report]
  cases (service.getRow id params).on next with
  | mk outcome last => cases outcome <;> rfl

/-- A create is all or nothing just when the new key finds the row that has been put at the end. -/
theorem allOrNothing_iff (hs : service.storage = Table.storage) (hinsert : table.insert attributes = .ok (id, next))
    {row : Record} (hrows : next.rows = table.rows ++ [row]) :
    AllOrNothing service table attributes ↔ (service.get id .none).on next = (.ok row, next) := by
  have hcreate := create_one_of_ok hs hinsert .none
  rw [AllOrNothing, hcreate]
  rcases getRow_cases hs id .none next with ⟨fault, hrow⟩ | ⟨q, clause, _, _, hrow⟩
  · rw [get_on_of_getRow_error hrow]
    simp [hrows]
  · generalize single id _ = outcome at hrow
    cases outcome with
    | error e =>
      rw [get_on_of_getRow_error hrow]
      simp [hrows]
    | ok found =>
      rw [get_on_of_getRow_ok hrow]
      simp [hrows, OneOrMany.toList, eq_comm]

theorem query_none (hname : Predicate.isReserved service.id = false) (id : Value) :
    Query.ofFields (Entries.insert service.id id Params.none.query) none
      = .ok ⟨Controls.none, [(service.id, id)]⟩ := by
  have hempty : Query.ofFields Params.none.query none = .ok ⟨Controls.none, []⟩ := rfl
  exact Query.ofFields_insert (Query.not_mem_controls hname) id hempty

/-- Without a query, a get gives the one row that satisfies the entry of the key. -/
theorem get_none_on (hs : service.storage = Table.storage) (hname : Predicate.isReserved service.id = false)
    (hc : Clause.compile [(service.id, id)] = .ok clause) (table : Table) :
    (∀ record, (service.get id .none).on table = (.ok record, table) ↔
      table.rows.filter (fun row => clause.holds row) = [record]) ∧
    ((table.rows.filter fun row => clause.holds row).length ≠ 1 →
      (service.get id .none).on table = (.error (service.hook (.noRecord id)), table)) := by
  obtain ⟨hok, herror⟩ := get_on_of_single (getRow_of_query hs (query_none hname id) hc table)
  refine ⟨fun record => (hok record).trans ?_, herror⟩
  constructor
  · rintro ⟨row, hrow, rfl⟩
    exact hrow
  · intro hrow
    exact ⟨record, hrow, rfl⟩

theorem get_none_of_fault (hs : service.storage = Table.storage) (hname : Predicate.isReserved service.id = false)
    (h : ¬ Predicate.EntryWellFormed 0 service.id id) (table : Table) :
    ∃ fault, (service.get id .none).on table = (.error (service.hook (.query fault)), table) := by
  rcases getRow_cases hs id .none table with ⟨fault, hrow⟩ | ⟨q, clause, hq, hc, _⟩
  · exact ⟨fault, get_on_of_getRow_error hrow⟩
  · rw [query_none hname] at hq
    cases hq
    exact absurd (Clause.compile_eq_ok_iff.mp hc).1.1 h

/-- A key that is no object finds the rows that have an equal key. -/
theorem filter_holds_of_plain (hname : Predicate.isReserved table.key = false) (hid : id ≠ .null)
    (hplain : id.fields? = none) (hc : Clause.compile [(table.key, id)] = .ok clause) (rows : List Record) :
    rows.filter (fun row => clause.holds row) = rows.filter (table.hasKey id) := by
  apply List.filter_congr
  intro row _
  have hentry : Predicate.Satisfied row [(table.key, id)] ↔ Predicate.EntrySatisfied row table.key id := by
    rw [Predicate.Satisfied, Predicate.Satisfied, and_true]
  rw [Bool.eq_iff_iff, Predicate.holds_iff_satisfied hc, hentry, Predicate.entrySatisfied_plain hname hplain,
    Table.equals_cell_iff hid]

theorem compile_entry (h : Predicate.EntryWellFormed 0 service.id id) :
    ∃ clause, Clause.compile [(service.id, id)] = .ok clause :=
  ⟨_, Clause.compile_eq_ok_iff.mpr ⟨⟨h, trivial⟩, rfl⟩⟩

/-- With a key that is no object, the inserted row is found together with those of an equal key. -/
theorem create_one_of_plain (hs : service.storage = Table.storage) (hname : Predicate.isReserved service.id = false)
    (hkey : service.id = table.key) (hinsert : table.insert attributes = .ok (id, next)) (hplain : id.fields? = none)
    {row : Record} (hid : id ≠ .null) (hrows : next.rows = table.rows ++ [row])
    (hrow : table.Inserted attributes id row) :
    ((∀ k ∈ table.keys, k.same id = false) →
      (service.create (.one attributes) .none).on table = (.ok (.one row), next) ∧
      (service.get id .none).on next = (.ok row, next)) ∧
    ((∃ k ∈ table.keys, k.same id = true) →
      (service.create (.one attributes) .none).on table = (.error (service.hook (.noRecord id)), next)) := by
  have hwell : Predicate.EntryWellFormed 0 service.id id := Predicate.entryWellFormed_plain hname hplain
  obtain ⟨clause, hc⟩ := compile_entry hwell
  obtain ⟨hok, herror⟩ := get_none_on hs hname hc next
  have hcreate := create_one_of_ok hs hinsert .none
  have hself : table.hasKey id row = true := Table.hasKey_iff.mpr ⟨id, hrow.key_eq, Value.same_self id⟩
  -- The key finds the new row and, before it, every row that has been there with an equal key.
  have hfound : next.rows.filter (fun row => clause.holds row) = table.rows.filter (table.hasKey id) ++ [row] := by
    rw [hkey] at hname hc
    rw [filter_holds_of_plain hname hid hplain hc, hrows, List.filter_append, List.filter_cons_of_pos hself,
      List.filter_nil]
  rw [hfound] at hok herror
  constructor
  · intro hfresh
    have hnone : table.rows.filter (table.hasKey id) = [] := by
      rw [List.filter_eq_nil_iff, ← List.any_eq_false]
      exact Table.any_hasKey_eq_false_iff.mpr hfresh
    have hget := (hok row).mpr (by rw [hnone, List.nil_append])
    rw [hcreate, hget]
    exact ⟨rfl, rfl⟩
  · intro hclash
    obtain ⟨other, hm, hother⟩ := List.any_eq_true.mp (Table.any_hasKey_iff.mpr hclash)
    have hlength : (table.rows.filter (table.hasKey id) ++ [row]).length ≠ 1 := by
      have hpos := List.length_pos_of_mem (List.mem_filter.mpr ⟨hm, hother⟩)
      rw [List.length_append, List.length_singleton]
      omega
    rw [hcreate, herror hlength]

/-- A create of one record inserts a row, or fails and leaves the table. After the insert it is all or nothing just when
the new key finds the row. A key that is no object does, unless another row has an equal key: then there is an error,
although the row stays. An object in the place of a key is taken for operators, and the rows that satisfy them are found.
Only a key from the sequence equals another, and among plain keys it does not as long as the sequence is within 53
bits. -/
theorem create_one_on (hs : service.storage = Table.storage) (hname : Predicate.isReserved service.id = false)
    (name : String) (columns : List String) (defaults : List (String × Value)) (writes : List Table.Write)
    (attributes : Record) :
    let start := Table.opened name service.id columns defaults
    let table := start.run writes
    (∀ e, table.insert attributes = .error e →
      (service.create (.one attributes) .none).on table = (.error (service.hook (.storage e.message)), table)) ∧
    ∀ id next, table.insert attributes = .ok (id, next) →
      ∃ row, next.rows = table.rows ++ [row] ∧ table.Inserted attributes id row ∧
        (AllOrNothing service table attributes ↔ (service.get id .none).on next = (.ok row, next)) ∧
        (id.fields? = none → (∀ k ∈ table.keys, k.same id = false) →
          (service.create (.one attributes) .none).on table = (.ok (.one row), next) ∧
          (service.get id .none).on next = (.ok row, next)) ∧
        (id.fields? = none → (∃ k ∈ table.keys, k.same id = true) →
          (service.create (.one attributes) .none).on table = (.error (service.hook (.noRecord id)), next)) ∧
        (¬ Predicate.EntryWellFormed 0 service.id id → ∃ fault,
          (service.create (.one attributes) .none).on table = (.error (service.hook (.query fault)), next)) ∧
        (Predicate.EntryWellFormed 0 service.id id → ∃ clause : Clause,
          (∀ r : Record, clause.holds r = true ↔ Predicate.EntrySatisfied r service.id id) ∧
          (∀ r, next.rows.filter (fun row => clause.holds row) = [r] →
            (service.create (.one attributes) .none).on table = (.ok (.one r), next)) ∧
          ((next.rows.filter fun row => clause.holds row).length ≠ 1 →
            (service.create (.one attributes) .none).on table = (.error (service.hook (.noRecord id)), next))) ∧
        ((Record.key? attributes service.id).isSome = true → ∀ k ∈ table.keys, k.same id = false) ∧
        ((∀ w ∈ writes, w.Plain service.id) →
          (∀ before, before <+: writes → (start.run before).nextId ≤ Binary64.exactBound) →
          ∀ k ∈ table.keys, k.same id = false) := by
  intro start table
  have hkey : table.key ∈ table.columns :=
    Table.key_mem_columns_run (Table.key_mem_columns_opened name service.id columns defaults) writes
  have hid : table.key = service.id := by
    rw [(Table.sameFrame_run start writes).2.1]
    exact congrArg Table.key (Table.opened_eq name service.id columns defaults)
  refine ⟨fun e h => create_one_of_error hs h, ?_⟩
  intro id next hinsert
  obtain ⟨hne, _, ⟨row, hrows, hrow⟩, hfresh⟩ := Table.inserted_of_insert hkey hinsert
  have hcreate := create_one_of_ok hs hinsert .none
  refine ⟨row, hrows, hrow, allOrNothing_iff hs hinsert hrows, ?_, ?_, ?_, ?_, ?_, ?_⟩
  · intro hplain
    exact (create_one_of_plain hs hname hid.symm hinsert hplain hne hrows hrow).1
  · intro hplain
    exact (create_one_of_plain hs hname hid.symm hinsert hplain hne hrows hrow).2
  · intro hfaulty
    obtain ⟨fault, hget⟩ := get_none_of_fault hs hname hfaulty next
    exact ⟨fault, by rw [hcreate, hget]⟩
  · intro hwell
    obtain ⟨clause, hc⟩ := compile_entry hwell
    obtain ⟨hok, herror⟩ := get_none_on hs hname hc next
    refine ⟨clause, ?_, ?_, ?_⟩
    · intro r
      rw [Predicate.holds_iff_satisfied hc, Predicate.Satisfied, Predicate.Satisfied, and_true]
    · intro r hr
      rw [hcreate, (hok r).mpr hr]
    · intro hlength
      rw [hcreate, herror hlength]
  · rwa [hid] at hfresh
  · intro hplain hbound
    -- A given key has been compared; one from the sequence is ahead of all integers that have been given.
    rcases Table.insert_cases hinsert with ⟨_, _, hany, _⟩ | ⟨hknown, hk, rfl, _⟩
    · exact Table.any_hasKey_eq_false_iff.mp hany
    · intro k hm
      by_contra hsame
      have hplain' : ∀ w ∈ writes, w.Plain start.key := by
        rwa [← (Table.sameFrame_run start writes).2.1, hid]
      have hkeys := Table.plainKeys_run (Table.key_mem_columns_opened name service.id columns defaults)
        (Table.plainKeys_opened name service.id columns defaults) hplain' hbound writes (List.prefix_refl writes)
      exact hkeys.not_clashes (hbound writes (List.prefix_refl writes)) (.insert attributes)
        ⟨attributes, rfl, hknown, hk, k, hm, by simpa using hsame⟩

end

/-- A record with a text for its key is created, and the default is put into the column that it leaves out. -/
theorem create_one_on_withDefault :
    (standard.create (.one [("id", .string "a"), ("name", .string "Ada")]) .none).on
        (Table.opened "people" "id" ["name", "age"] [("age", .ofInt 30)])
      = (.ok (.one [("id", .string "a"), ("name", .string "Ada"), ("age", .ofInt 30)]),
        { Table.opened "people" "id" ["name", "age"] [("age", .ofInt 30)] with
          rows := [[("id", .string "a"), ("name", .string "Ada"), ("age", .ofInt 30)]] }) := by
  have hstorage : standard.storage = Table.storage := rfl
  obtain ⟨_, hcreate⟩ := create_one_on hstorage (by decide) "people" ["name", "age"] [("age", .ofInt 30)] []
    [("id", .string "a"), ("name", .string "Ada")]
  obtain ⟨row, hrows, _, _, hfound, _, _, _, hfresh, _⟩ := hcreate (.string "a") _ rfl
  have hrow : [("id", .string "a"), ("name", .string "Ada"), ("age", .ofInt 30)] = row := (List.cons.inj hrows).1
  subst hrow
  exact (hfound rfl (hfresh (by decide))).1

/-- Creates that fail leave rows behind: with a key from the sequence that a text spells, and with an object for a key;
and with an object that another row satisfies, that row is given. -/
theorem not_forall_create_one_on :
    ¬ AllOrNothing standard ((Table.opened "t" "id" [] []).run [.insert [("id", .string "1")]]) [] ∧
      ¬ AllOrNothing standard (Table.opened "t" "id" [] []) [("id", .object [("a", .ofInt 1)])] ∧
      ¬ AllOrNothing standard ((Table.opened "t" "id" [] []).run [.insert []])
        [("id", .object [("$lt", .ofInt 5)])] := by
  have hclash : (standard.create (.one []) .none).on ((Table.opened "t" "id" [] []).run [.insert [("id", .string "1")]])
      = (.error (.noRecord (.ofInt 1)),
        (Table.opened "t" "id" [] []).run [.insert [("id", .string "1")], .insert []]) := by
    decide +kernel
  have hobject : (standard.create (.one [("id", .object [("a", .ofInt 1)])]) .none).on (Table.opened "t" "id" [] [])
      = (.error (.query (.unexpectedField "id" "a")),
        (Table.opened "t" "id" [] []).run [.insert [("id", .object [("a", .ofInt 1)])]]) := by
    decide +kernel
  have hother : (standard.create (.one [("id", .object [("$lt", .ofInt 5)])]) .none).on
        ((Table.opened "t" "id" [] []).run [.insert []])
      = (.ok (.one [("id", .ofInt 1)]),
        (Table.opened "t" "id" [] []).run [.insert [], .insert [("id", .object [("$lt", .ofInt 5)])]]) := by
    decide +kernel
  unfold AllOrNothing
  rw [hclash, hobject, hother]
  exact ⟨by decide +kernel, by decide +kernel, by decide +kernel⟩

end Service

end RowStore
