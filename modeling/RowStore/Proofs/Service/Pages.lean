import RowStore.Proofs.Number.Whole
import RowStore.Proofs.Service.Bulk

/-!
# Pages tile a result

A page is a slice of the rows that match, which are filtered and sorted anew for each page. As this comes out the same
every time, the pages of one size put together are all the rows.
-/

namespace RowStore

set_option autoImplicit false

namespace Number

/-- The greatest count that a control stands for. -/
def greatestCount : Nat := Numeral.greatestInt64.natAbs

theorem toInt64_ofNat (n : Nat) : (integer n).toInt64 = (min n greatestCount : Nat) := by
  have hgreatest : (greatestCount : Int) = Numeral.greatestInt64 := rfl
  have hleast : Numeral.leastInt64 ≤ 0 := by decide
  rw [toInt64_integer, clampInt64]
  omega

end Number

namespace Controls

theorem readCount_ofNat (control : String) (n : Nat) :
    readCount control (.ofNat n) = .ok (some (min n Number.greatestCount)) := by
  change Except.ok (some (Number.integer n).toInt64.natAbs) = _
  rw [Number.toInt64_ofNat, Int.natAbs_natCast]

theorem Part.Keeps.read_ofNat {part : Part (Option Nat)} {put : Controls → Option Nat → Controls} (h : part.Keeps put)
    (hcount : part.ofValue = readCount part.name) (controls : Controls) (n : Nat) :
    controls.read (part.name, .ofNat n) = .ok (put controls (some (min n Number.greatestCount))) := by
  rw [h.read, hcount, readCount_ofNat]
  rfl

end Controls

/-- A query for one page: so many rows are passed over, and no more than a size are given. -/
def Query.paged (fields : Fields) (size skip : Nat) : Fields :=
  Entries.insert Controls.skipKey (.ofNat skip) (Entries.insert Controls.limitKey (.ofNat size) fields)

def Params.page (params : Params) (size skip : Nat) : Params :=
  { params with query := Query.paged params.query size skip }

def pageCount (total size : Nat) : Nat := (total + size - 1) / size

theorem lt_pageCount_iff {total size k : Nat} (hsize : 0 < size) : k < pageCount total size ↔ k * size < total := by
  rw [pageCount, Nat.lt_iff_add_one_le, Nat.le_div_iff_mul_le hsize, Nat.add_mul, Nat.one_mul]
  omega

/-- Chunks of one length, taken one after the other, are the start of a list. -/
theorem flatMap_take_drop {α : Type} (items : List α) (size count : Nat) :
    ((List.range count).flatMap fun k => (items.drop (k * size)).take size) = items.take (count * size) := by
  induction count with
  | zero => rw [Nat.zero_mul, List.take_zero, List.range_zero, List.flatMap_nil]
  | succ count ih =>
    rw [List.range_succ, List.flatMap_append, ih, List.flatMap_singleton, Nat.succ_mul, List.take_add]

theorem flatMap_pages {α : Type} (items : List α) {size : Nat} (hsize : 0 < size) :
    ((List.range (pageCount items.length size)).flatMap fun k => (items.drop (k * size)).take size) = items := by
  rw [flatMap_take_drop]
  apply List.take_of_length_le
  exact Nat.le_of_not_lt fun hlt => Nat.lt_irrefl _ ((lt_pageCount_iff hsize).mpr hlt)

namespace Query

variable {fields : Fields} {q : Query}

theorem ofFields_paged (hq : ofFields fields none = .ok q) (hlimit : Controls.limitKey ∉ Entries.names fields)
    (hskip : Controls.skipKey ∉ Entries.names fields) (size skip : Nat) :
    ofFields (paged fields size skip) none = .ok ⟨{ q.controls with
      limit := some (min size Number.greatestCount), skip := some (min skip Number.greatestCount) }, q.predicate⟩ := by
  obtain ⟨controls, hread, rfl⟩ := exists_controls hq
  have hpredicate : predicateOf (paged fields size skip) = predicateOf fields := by
    rw [paged, predicateOf_insert_control (by decide), predicateOf_insert_control (by decide)]
  have hlast : Controls.skipKey ∉ Entries.names (fields ++ [(Controls.limitKey, Value.ofNat size)]) := by
    rw [Entries.names, List.map_append, List.mem_append, not_or]
    have hother : Controls.skipKey ≠ Controls.limitKey := by decide
    exact ⟨hskip, fun hm => hother (List.mem_singleton.mp hm)⟩
  have hfold : (paged fields size skip).foldlM Controls.read Controls.none = .ok { controls with
      limit := some (min size Number.greatestCount), skip := some (min skip Number.greatestCount) } := by
    rw [paged, Entries.insert_of_not_mem hlimit, Entries.insert_of_not_mem hlast, List.append_assoc,
      List.foldlM_append, hread]
    change (Controls.read controls (Controls.limiting.name, .ofNat size)).bind
      (fun next => (Controls.read next (Controls.skipping.name, .ofNat skip)).bind .ok) = _
    rw [Controls.limiting_keeps.read_ofNat rfl, Except.bind, Controls.skipping_keeps.read_ofNat rfl]
    rfl
  rw [ofFields, hfold, hpredicate]
  rfl

end Query

theorem Policy.resolve_of_le {policy : Policy} {size : Nat} (h : ∀ most, policy.maxSize = some most → size ≤ most) :
    policy.resolve (some size) = some size := by
  cases henabled : policy.enabled with
  | false => exact resolve_of_not_enabled henabled (some size)
  | true =>
    obtain ⟨_, _, hresolve⟩ := resolve_of_enabled henabled (some size)
    rw [hresolve, Option.getD_some, cap]
    cases hmost : policy.maxSize with
    | none => rfl
    | some most => exact congrArg some (Nat.min_eq_left (h most hmost))

namespace Service

/-- What leaves the state as it is does so for several items in turn. -/
theorem on_each_of_forall {σ α β : Type} {f : α → Action σ β} {g : α → β} {items : List α} {s : σ}
    (h : ∀ item ∈ items, (f item).on s = (.ok (g item), s)) : (each f items).on s = (.ok (items.map g), s) := by
  induction items with
  | nil => rfl
  | cons item rest ih =>
    obtain ⟨hitem, hrest⟩ := List.forall_mem_cons.mp h
    rw [each, Action.on_bind_ok _ hitem, Action.on_bind_ok _ (ih hrest)]
    rfl

section

variable {service : Service Table} {params : Params} {q : Query} {clause : Clause} {table : Table} {size skip : Nat}

theorem data_found (service : Service Table) (params : Params) (controls : Controls) (rows : List Record) :
    (service.found params controls rows).data
      = ((controls.under (service.policyOf params)).page rows).map (controls.shown service.id) := by
  rw [found, Fetched.selection]
  split <;> rfl

theorem total_of_found {controls : Controls} {rows : List Record} {page : Page}
    (h : service.found params controls rows = .page page) : page.total = rows.length := by
  rw [found, Fetched.selection] at h
  split at h
  · cases h
    rfl
  · cases h

/-- The controls of a query with those of a page put in. -/
def pagedControls (controls : Controls) (size skip : Nat) : Controls :=
  { controls with limit := some (min size Number.greatestCount), skip := some (min skip Number.greatestCount) }

theorem data_found_paged (hsize : 0 < size) (hmost : ∀ most, (service.policyOf params).maxSize = some most → size ≤ most)
    (hskip : skip ≤ Number.greatestCount) {rows : List Record} (hroom : min size rows.length ≤ Number.greatestCount)
    (controls : Controls) :
    (service.found params (pagedControls controls size skip) rows).data
      = (((Table.sortRows controls.sort rows).drop skip).take size).map (controls.shown service.id) := by
  have hlimit : (service.policyOf params).resolve (some (min size Number.greatestCount))
      = some (min size Number.greatestCount) :=
    Policy.resolve_of_le fun most hsome => Nat.le_trans (Nat.min_le_left _ _) (hmost most hsome)
  have hpositive : some (min size Number.greatestCount) ≠ some 0 := by
    have hgreatest : 0 < Number.greatestCount := by decide
    intro hzero
    have hmin := Option.some.inj hzero
    omega
  rw [data_found, Controls.under, Controls.page, pagedControls]
  simp only [hlimit, if_neg hpositive, Table.slice, Option.getD_some, Nat.min_eq_left hskip]
  apply congrArg (List.map _)
  rcases Nat.le_total size Number.greatestCount with hle | hge
  · rw [Nat.min_eq_left hle]
  · -- If the size is cut down, there are no more rows than what it is cut down to.
    have hdrop : ((Table.sortRows controls.sort rows).drop skip).length ≤ rows.length := by
      rw [List.length_drop, Table.length_sortRows]
      exact Nat.sub_le _ _
    rw [Nat.min_eq_right hge]
    by_cases hfew : rows.length ≤ Number.greatestCount
    · rw [List.take_of_length_le (Nat.le_trans hdrop hfew),
        List.take_of_length_le (Nat.le_trans hdrop (Nat.le_trans hfew hge))]
    · have hsame : size = Number.greatestCount := by omega
      rw [hsame]

theorem page_unbounded {controls : Controls} (hlimit : controls.limit = none) (hskip : controls.skip = none)
    (rows : List Record) : controls.page rows = Table.sortRows controls.sort rows := by
  rw [Controls.page, hlimit, hskip, if_neg (Option.some_ne_none 0).symm]
  rfl

theorem find_page_on (hs : service.storage = Table.storage) (hq : Query.ofFields params.query none = .ok q)
    (hc : Clause.compile q.predicate = .ok clause) (hlimit : Controls.limitKey ∉ Entries.names params.query)
    (hskip : Controls.skipKey ∉ Entries.names params.query) (size skip : Nat) (table : Table) :
    (service.find (params.page size skip)).on table = (.ok (service.found params (pagedControls q.controls size skip)
      (table.satisfying clause)), table) := by
  have hpaged : Query.ofFields (params.page size skip).query none = .ok ⟨pagedControls q.controls size skip, q.predicate⟩ :=
    Query.ofFields_paged hq hlimit hskip size skip
  exact (find_on_of_query hs hpaged hc table).1

theorem flatMap_data_pages (hsize : 0 < size) (hmost : ∀ most, (service.policyOf params).maxSize = some most → size ≤ most)
    (controls : Controls) {rows : List Record} (hskips : ∀ k, k * size < rows.length → k * size ≤ Number.greatestCount)
    (hroom : min size rows.length ≤ Number.greatestCount) :
    ((List.range (pageCount rows.length size)).flatMap fun k =>
        (service.found params (pagedControls controls size (k * size)) rows).data)
      = (Table.sortRows controls.sort rows).map (controls.shown service.id) := by
  have hdata : ∀ k ∈ List.range (pageCount rows.length size),
      (service.found params (pagedControls controls size (k * size)) rows).data
        = (((Table.sortRows controls.sort rows).drop (k * size)).take size).map (controls.shown service.id) := by
    intro k hk
    have hskip := hskips k ((lt_pageCount_iff hsize).mp (List.mem_range.mp hk))
    exact data_found_paged hsize hmost hskip hroom controls
  have htile := flatMap_pages (Table.sortRows controls.sort rows) hsize
  rw [Table.length_sortRows] at htile
  rw [List.flatMap_congr hdata, ← List.map_flatMap, htile]

/-- Pages of one size tile the result. A query without bounds that can be found gives, with pages turned off, the rows that
the pages of this query give one after the other; a page is asked for as long as fewer rows have been passed over than
match. -/
theorem pages_tile (hs : service.storage = Table.storage) (hlimit : Controls.limitKey ∉ Entries.names params.query)
    (hskip : Controls.skipKey ∉ Entries.names params.query) {selection : Selection} {next : Table}
    (hfind : (service.find params).on table = (.ok selection, next)) :
    ∃ rows : List Record,
      (∀ policy : Policy, policy.enabled = false →
        (service.find { params with policy := some policy }).on table = (.ok (.rows rows), table)) ∧
      ∀ size : Nat, 0 < size → (∀ most, (service.policyOf params).maxSize = some most → size ≤ most) →
        (∀ k, k * size < rows.length → k * size < 2 ^ 63) → min size rows.length < 2 ^ 63 →
        (∀ k, k < pageCount rows.length size ↔ k * size < rows.length) ∧
        ∃ pages : List Selection,
          (each (fun k => service.find (params.page size (k * size))) (List.range (pageCount rows.length size))).on table
            = (.ok pages, table) ∧
          pages.flatMap Selection.data = rows ∧ ∀ page, .page page ∈ pages → page.total = rows.length := by
  obtain ⟨q, clause, hq, hc⟩ : ∃ q clause, Query.ofFields params.query none = .ok q ∧
      Clause.compile q.predicate = .ok clause := by
    rcases find_cases hs params table with ⟨e, he⟩ | hfound
    · rw [he] at hfind
      cases hfind
    · exact hfound
  have hlength : ∀ items : List Record, ((Table.sortRows q.controls.sort items).map (q.controls.shown service.id)).length
      = items.length := by
    intro items
    rw [List.length_map, Table.length_sortRows]
  refine ⟨(Table.sortRows q.controls.sort (table.satisfying clause)).map (q.controls.shown service.id), ?_, ?_⟩
  · intro policy hpolicy
    have hsame : Query.ofFields (Params.mk params.query (some policy)).query none = .ok q := hq
    have hoff : (service.policyOf (Params.mk params.query (some policy))).enabled = false := hpolicy
    rw [find_on_unpaged hs hsame hc hoff, page_unbounded (Query.get_eq_none Controls.limiting_keeps.reads hq hlimit)
      (Query.get_eq_none Controls.skipping_keeps.reads hq hskip)]
  · intro size hsize hmost hskips hroom
    rw [hlength] at hskips hroom ⊢
    have hgreatest : 2 ^ 63 = Number.greatestCount + 1 := by decide
    refine ⟨fun k => lt_pageCount_iff hsize, _,
      on_each_of_forall fun k _ => find_page_on hs hq hc hlimit hskip size (k * size) table, ?_, ?_⟩
    · rw [List.flatMap_map]
      refine flatMap_data_pages hsize hmost q.controls (fun k hk => ?_) (by omega)
      have hbound := hskips k hk
      omega
    · intro page hm
      obtain ⟨k, _, hpage⟩ := List.mem_map.mp hm
      exact total_of_found hpage

end

def byName : Params :=
  ⟨[("$sort", .object [("name", .ofInt (-1))]), ("$select", .string "name")], none⟩

/-- Two pages of one name each. -/
theorem pages_tile_byName :
    ∃ pages : List Selection,
      (each (fun k => paging.find (byName.page 1 (k * 1))) [0, 1]).on people = (.ok pages, people) ∧
      pages.flatMap Selection.data
        = [[("id", .ofInt 2), ("name", .string "Bo")], [("id", .ofInt 1), ("name", .string "Ada")]] := by
  have hstorage : paging.storage = Table.storage := rfl
  have hread : Query.ofFields byName.query none = .ok ⟨⟨some ["name"], [⟨"name", .descending⟩], none, none⟩, []⟩ := rfl
  have hclause : Clause.compile [] = .ok (.all []) := rfl
  have hfind := (find_on_of_query hstorage hread hclause people).1
  obtain ⟨rows, hall, htile⟩ := pages_tile hstorage (by decide) (by decide) hfind
  have hsame : Query.ofFields (Params.mk byName.query (some .off)).query none = .ok _ := hread
  have hoff := find_on_unpaged hstorage hsame hclause rfl people
  rw [hall .off rfl] at hoff
  have hsorted : Table.sortRows [⟨"name", .descending⟩] people.rows = people.rows.reverse := by
    have horder : Table.orderRows [⟨"name", .descending⟩] [("id", .ofInt 1), ("name", .string "Ada")]
        [("id", .ofInt 2), ("name", .string "Bo")] = .gt := by
      decide +kernel
    simp [Table.sortRows, people, List.mergeSort, horder]
  have hrows : rows = [[("id", .ofInt 2), ("name", .string "Bo")], [("id", .ofInt 1), ("name", .string "Ada")]] := by
    injection hoff with hoff
    injection hoff with hoff
    injection hoff with hoff
    rw [hoff, page_unbounded rfl rfl]
    change (Table.sortRows _ people.rows).map _ = _
    rw [hsorted]
    decide +kernel
  subst hrows
  obtain ⟨_, pages, hpages, hdata, _⟩ := htile 1 (by decide) (by rintro _ ⟨⟩; decide) (by simp; omega) (by decide)
  exact ⟨pages, hpages, hdata⟩

end Service

end RowStore
