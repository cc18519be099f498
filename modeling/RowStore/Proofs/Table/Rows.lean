import Mathlib.Data.List.Pairwise
import RowStore.Proofs.Entries
import RowStore.Proofs.Table.Keys

/-!
# Rows

A row of a table has all columns and a key, whatever has been written before. Writing into a row puts values under the
names that are written and leaves the rest, and showing a row leaves columns out.
-/

namespace RowStore

set_option autoImplicit false

theorem Entries.names_insertAll {α : Type} (entries more : Entries α) :
    names (insertAll entries more) = Plan.addColumns (names entries) (names more) := by
  induction more generalizing entries with
  | nil => rfl
  | cons entry rest ih =>
    change names (insertAll (insert entry.1 entry.2 entries) rest) = _
    rw [ih, names_insert, names_cons, Plan.addColumns]
    simp only [List.contains_iff_mem]

namespace Plan

theorem mem_keyFirst {key column : String} {columns : List String} :
    column ∈ keyFirst key columns ↔ column = key ∨ column ∈ columns := by
  rw [keyFirst, Table.mem_addColumns, List.mem_singleton]

end Plan

namespace Table

variable {table next : Table} {attributes changes row record : Record} {id : Value} {column : String}

theorem lookup_project (columns : List String) (row : Record) (column : String) :
    (project (some columns) row).lookup column = if column ∈ columns then row.lookup column else none := by
  have hvalues : ∀ entry ∈ columns.filterMap fun other => (row.lookup other).map (other, ·),
      row.lookup entry.1 = some entry.2 := by
    intro entry hm
    obtain ⟨other, _, hother⟩ := List.mem_filterMap.mp hm
    obtain ⟨value, hvalue, rfl⟩ := Option.map_eq_some_iff.mp hother
    exact hvalue
  have hnames : column ∈ Entries.names (columns.filterMap fun other => (row.lookup other).map (other, ·)) ↔
      column ∈ columns ∧ row.lookup column ≠ none := by
    constructor
    · intro hm
      obtain ⟨entry, hentry, rfl⟩ := List.mem_map.mp hm
      obtain ⟨other, hother, hshown⟩ := List.mem_filterMap.mp hentry
      obtain ⟨value, hvalue, rfl⟩ := Option.map_eq_some_iff.mp hshown
      exact ⟨hother, hvalue ▸ Option.some_ne_none value⟩
    · rintro ⟨hm, hrow⟩
      obtain ⟨value, hvalue⟩ := Option.ne_none_iff_exists'.mp hrow
      exact List.mem_map.mpr ⟨(column, value), List.mem_filterMap.mpr ⟨column, hm, by rw [hvalue]; rfl⟩, rfl⟩
  rw [project, Entries.ofList, Entries.lookup_insertAll (fun other => row.lookup other) hvalues]
  simp only [hnames]
  by_cases hm : column ∈ columns
  · cases hrow : row.lookup column <;> simp [hm]
  · simp [hm]

theorem write_cons (change : String × Value) (rest : Record) (row : Record) :
    table.write (change :: rest) row
      = table.write rest (if change.1 = table.key then row else Entries.insert change.1 change.2 row) := rfl

/-- A row after a write of values that depend on their names only. -/
theorem lookup_write {value : String → Value} (h : ∀ entry ∈ changes, entry.1 ≠ table.key ∧ entry.2 = value entry.1) :
    (table.write changes row).lookup column
      = if column ∈ Entries.names changes then some (value column) else row.lookup column := by
  induction changes generalizing row with
  | nil => rfl
  | cons change rest ih =>
    obtain ⟨⟨hkey, hvalue⟩, hrest⟩ := List.forall_mem_cons.mp h
    rw [write_cons, if_neg hkey, ih hrest, Entries.lookup_insert, hvalue, Entries.names_cons]
    by_cases hmem : column ∈ Entries.names rest
    · simp [hmem]
    · by_cases he : column = change.1 <;> simp [hmem, he]

/-- What a row has after a write: under the key what it had, elsewhere the last value that is written there, if any. -/
theorem lookup_write_reverse :
    (table.write changes row).lookup column = if column = table.key then row.lookup column
      else (changes.reverse.lookup column).or (row.lookup column) := by
  split
  case isTrue hkey => rw [hkey, lookup_key_write]
  case isFalse hkey =>
    induction changes generalizing row with
    | nil => rfl
    | cons change rest ih =>
      rw [write_cons, ih, List.reverse_cons, List.lookup_append, Option.or_assoc]
      congr 1
      obtain ⟨name, value⟩ := change
      rw [Entries.lookup_cons, List.lookup_nil]
      by_cases hname : column = name
      · subst hname
        rw [if_neg hkey, if_pos rfl, Entries.lookup_insert, if_pos rfl, Option.some_or]
      · rw [if_neg hname, Option.none_or]
        split
        · rfl
        · rw [Entries.lookup_insert, if_neg hname]

theorem names_write (h : ∀ name ∈ Entries.names changes, name ≠ table.key → name ∈ Entries.names row) :
    Entries.names (table.write changes row) = Entries.names row := by
  induction changes generalizing row with
  | nil => rfl
  | cons change rest ih =>
    rw [Entries.names_cons, List.forall_mem_cons] at h
    rw [write_cons]
    by_cases hkey : change.1 = table.key
    · rw [if_pos hkey, ih h.2]
    · have hnames : Entries.names (Entries.insert change.1 change.2 row) = Entries.names row := by
        rw [Entries.names_insert, if_pos (h.1 hkey)]
      rw [if_neg hkey, ih (hnames ▸ h.2), hnames]

theorem names_newRow : Entries.names (table.newRow id attributes) = table.columns := by
  rw [newRow, Entries.names, List.map_map]
  exact List.map_id _

/-- Names that are no columns are found. -/
theorem unknownColumn?_eq_none_iff :
    table.unknownColumn? changes = none ↔ ∀ name ∈ Entries.names changes, name ∈ table.columns := by
  rw [unknownColumn?, List.find?_eq_none]
  simp

theorem exists_unknownColumn?_iff :
    (∃ column, table.unknownColumn? changes = some column) ↔ ∃ column ∈ Entries.names changes, column ∉ table.columns := by
  rw [← Option.ne_none_iff_exists', Ne, unknownColumn?_eq_none_iff]
  simp only [not_forall, exists_prop]

/-- Where keys are distinct, a row that has the key of another one is that row. -/
theorem DistinctKeys.eq_of_hasKey (hd : DistinctKeys table) (hm : row ∈ table.rows)
    (hk : Record.key? row table.key = some id) {other : Record} (hother : other ∈ table.rows)
    (h : table.hasKey id other = true) : other = row := by
  obtain ⟨l, hl, hsame⟩ := hasKey_iff.mp h
  rw [DistinctKeys, keys, List.pairwise_filterMap] at hd
  have hsymm : Std.Symm fun a b : Record => ∀ k, Record.key? a table.key = some k →
      ∀ l, Record.key? b table.key = some l → k.same l = false :=
    ⟨fun a b hab l hl k hk => (Value.same_comm l k).trans (hab k hk l hl)⟩
  by_contra hne
  have hdiffer := hd.forall hother hm hne l hl id hk
  rw [hsame] at hdiffer
  cases hdiffer

/-- Where keys are distinct, the key of a row finds that row alone. -/
theorem DistinctKeys.filter_hasKey (hd : DistinctKeys table) (hm : row ∈ table.rows)
    (hk : Record.key? row table.key = some id) : table.rows.filter (table.hasKey id) = [row] := by
  obtain ⟨before, after, hrows⟩ := List.append_of_mem hm
  rw [DistinctKeys, keys, hrows, List.filterMap_append, List.filterMap_cons, hk, List.pairwise_append,
    List.pairwise_cons] at hd
  obtain ⟨_, ⟨hafter, _⟩, hbefore⟩ := hd
  have hnone : ∀ others : List Record, (∀ l ∈ others.filterMap (Record.key? · table.key), l.same id = false) →
      others.filter (table.hasKey id) = [] := by
    intro others hdiffer
    rw [List.filter_eq_nil_iff]
    intro other hother hhas
    obtain ⟨l, hl, hsame⟩ := hasKey_iff.mp hhas
    rw [hdiffer l (List.mem_filterMap.mpr ⟨other, hother, hl⟩)] at hsame
    cases hsame
  have hself : table.hasKey id row = true := hasKey_iff.mpr ⟨id, hk, Value.same_self id⟩
  rw [hrows, List.filter_append, List.filter_cons_of_pos hself, hnone before, hnone after, List.nil_append]
  · intro l hl
    rw [Value.same_comm]
    exact hafter l hl
  · intro l hl
    exact hbefore l hl id List.mem_cons_self

/-- With distinct keys, an update by the key of a row writes into that row. -/
theorem update_of_mem (hd : DistinctKeys table) (hm : row ∈ table.rows) (hk : Record.key? row table.key = some id)
    (h : table.update id changes = .ok (record, next)) :
    ∃ before after, table.rows = before ++ row :: after ∧ record = table.write changes row ∧
      next = { table with rows := before ++ record :: after } := by
  obtain ⟨_, before, old, after, hrows, _, hold, hrecord, hnext⟩ := update_cases h
  have hmem : old ∈ table.rows := hrows ▸ List.mem_append_right before List.mem_cons_self
  obtain rfl : old = row := hd.eq_of_hasKey hm hk hmem hold
  exact ⟨before, after, hrows, hrecord, hnext⟩

theorem changeFirst_eq_none_iff {α : Type} {test : α → Bool} {change : α → α} {items : List α} :
    changeFirst test change items = none ↔ items.any test = false := by
  induction items with
  | nil => simp [changeFirst]
  | cons item rest ih =>
    rw [changeFirst, List.any_cons]
    cases test item <;> simp [ih]

theorem changeFirst_isSome {α : Type} {test : α → Bool} {items : List α} {item : α} (hm : item ∈ items)
    (ht : test item = true) (change : α → α) : ∃ result, changeFirst test change items = some result := by
  apply Option.ne_none_iff_exists'.mp
  rw [Ne, changeFirst_eq_none_iff, List.any_eq_false]
  exact fun hnone => hnone item hm ht

/-- An update of columns by the key of a row succeeds. -/
theorem update_isOk (hm : row ∈ table.rows) (hk : Record.key? row table.key = some id)
    (hcolumns : ∀ name ∈ Entries.names changes, name ∈ table.columns) :
    ∃ record next, table.update id changes = .ok (record, next) := by
  have hrow : table.hasKey id row = true := hasKey_iff.mpr ⟨id, hk, Value.same_self id⟩
  obtain ⟨⟨record, rows⟩, hresult⟩ := changeFirst_isSome hm hrow (table.write changes)
  refine ⟨record, { table with rows }, ?_⟩
  rw [update, unknownColumn?_eq_none_iff.mpr hcolumns]
  simp only [hresult]

/-- Every row has just the columns of the table, and a key. -/
def Shaped (table : Table) : Prop :=
  ∀ row ∈ table.rows, Entries.names row = table.columns ∧ (Record.key? row table.key).isSome = true

theorem shaped_insert (hkey : table.key ∈ table.columns) (h : Shaped table)
    (hinsert : table.insert attributes = .ok (id, next)) : Shaped next := by
  have hrow : ∀ {id : Value}, id ≠ .null → Entries.names (table.newRow id attributes) = table.columns ∧
      (Record.key? (table.newRow id attributes) table.key).isSome = true := by
    intro id hid
    rw [key?_newRow hkey hid]
    exact ⟨names_newRow, rfl⟩
  rcases insert_cases hinsert with ⟨_, hk, _, rfl⟩ | ⟨_, _, rfl, rfl⟩
  · exact List.forall_mem_append.mpr ⟨h, List.forall_mem_singleton.mpr (hrow (key?_ne_null hk))⟩
  · exact List.forall_mem_append.mpr ⟨h, List.forall_mem_singleton.mpr (hrow nofun)⟩

theorem shaped_update (h : Shaped table) (hupdate : table.update id changes = .ok (row, next)) : Shaped next := by
  obtain ⟨hunknown, before, old, after, hrows, _, _, rfl, rfl⟩ := update_cases hupdate
  rw [Shaped, hrows, List.forall_mem_append, List.forall_mem_cons] at h
  obtain ⟨hbefore, ⟨hnames, hold⟩, hafter⟩ := h
  have hwritten : Entries.names (table.write changes old) = table.columns := by
    rw [names_write, hnames]
    intro name hm _
    rw [hnames]
    exact unknownColumn?_eq_none_iff.mp hunknown name hm
  refine List.forall_mem_append.mpr ⟨hbefore, List.forall_mem_cons.mpr ⟨⟨hwritten, ?_⟩, hafter⟩⟩
  rwa [key?_write]

theorem shaped_perform (hkey : table.key ∈ table.columns) (h : Shaped table) (w : Write) :
    Shaped (table.perform w) := by
  refine perform_induction w h ?_ ?_ ?_ ?_
  · intro attributes id next _ hinsert
    exact shaped_insert hkey h hinsert
  · intro id changes row next hupdate
    exact shaped_update h hupdate
  · intro id next hdelete
    obtain ⟨_, rfl⟩ := delete_cases hdelete
    exact fun row hm => h row (List.mem_filter.mp hm).1
  · exact fun row hm => absurd hm List.not_mem_nil

/-- The rows of a table that was new once have all columns and a key. -/
theorem shaped_run (name key : String) (columns : List String) (defaults : List (String × Value))
    (writes : List Write) : Shaped ((opened name key columns defaults).run writes) := by
  have hkey := key_mem_columns_opened name key columns defaults
  have hempty : Shaped (opened name key columns defaults) := by
    rw [opened_eq]
    exact fun row hm => absurd hm List.not_mem_nil
  refine prefix_induction hempty ?_ writes (List.prefix_refl writes)
  intro before w _ hbefore
  exact shaped_perform (key_mem_columns_run hkey before) hbefore w

end Table

end RowStore
