import Mathlib.Data.List.Nodup
import RowStore.Proofs.Table.Rows

/-!
# Rows that are picked

Where keys are distinct, the key of a row stands for the row: a write by this key reaches it and no other one. Writes by
the keys of several rows, one after the other, come to one change of these rows.
-/

namespace RowStore

set_option autoImplicit false

namespace Table

/-- Every row has a key, and no two rows have equal ones. -/
structure Keyed (table : Table) : Prop where
  distinct : DistinctKeys table
  isSome : ∀ row ∈ table.rows, (Record.key? row table.key).isSome = true

/-- Rows of which those that are picked are changed, or taken out where nothing comes of them. -/
def reworked (picked : List Record) (change : Record → Option Record) (rows : List Record) : List Record :=
  rows.filterMap fun row => if row ∈ picked then change row else some row

section

variable {table : Table} {changes row other : Record} {rows picked rest : List Record} {id : Value}
  {change : Record → Option Record}

theorem reworked_nil (change : Record → Option Record) (rows : List Record) : reworked [] change rows = rows := by
  simp [reworked]

theorem mem_reworked (hm : row ∈ rows) (h : row ∉ picked) : row ∈ reworked picked change rows := by
  refine List.mem_filterMap.mpr ⟨row, hm, ?_⟩
  rw [if_neg h]

theorem reworked_none (picked rows : List Record) :
    reworked picked (fun _ => none) rows = rows.filter fun row => row ∉ picked := by
  rw [reworked, ← List.filterMap_eq_filter]
  apply List.filterMap_congr
  intro row _
  by_cases h : row ∈ picked
  · simp [h, Option.guard]
  · simp [h, Option.guard]

theorem reworked_some (picked : List Record) (f : Record → Record) (rows : List Record) :
    reworked picked (fun row => some (f row)) rows = rows.map fun row => if row ∈ picked then f row else row := by
  rw [reworked, ← List.filterMap_eq_map]
  apply List.filterMap_congr
  intro row _
  by_cases h : row ∈ picked
  · simp [h]
  · simp [h]

/-- Rows are changed one by one as they are all at once, unless a change makes a row that is still to be changed. -/
theorem reworked_cons (h : ∀ changed, change row = some changed → changed ∉ rest) :
    reworked rest change (reworked [row] change rows) = reworked (row :: rest) change rows := by
  rw [reworked, reworked, List.filterMap_filterMap]
  apply List.filterMap_congr
  intro other _
  by_cases hrow : other = row
  · subst hrow
    cases hchange : change other with
    | none => simp
    | some changed => simp [h changed hchange]
  · simp [hrow]

namespace Keyed

theorem nodup (h : Keyed table) : table.rows.Nodup := by
  have hd := h.distinct
  rw [DistinctKeys, keys, List.pairwise_filterMap] at hd
  refine List.Pairwise.imp_of_mem ?_ hd
  rintro row other hm _ hdiffer rfl
  obtain ⟨k, hk⟩ := Option.isSome_iff_exists.mp (h.isSome row hm)
  have hself := hdiffer k hk k hk
  rw [Value.same_self] at hself
  cases hself

theorem hasKey_iff_eq (h : Keyed table) (hm : row ∈ table.rows) (hk : Record.key? row table.key = some id)
    (hother : other ∈ table.rows) : table.hasKey id other = true ↔ other = row := by
  constructor
  · intro hhas
    exact h.distinct.eq_of_hasKey hm hk hother hhas
  · rintro rfl
    exact hasKey_iff.mpr ⟨id, hk, Value.same_self id⟩

theorem eq_of_key? (h : Keyed table) (hm : row ∈ table.rows) (hother : other ∈ table.rows)
    (hkey : Record.key? other table.key = Record.key? row table.key) : other = row := by
  obtain ⟨k, hk⟩ := Option.isSome_iff_exists.mp (h.isSome row hm)
  exact (h.hasKey_iff_eq hm hk hother).mp (hasKey_iff.mpr ⟨k, hkey.trans hk, Value.same_self k⟩)

theorem reworked (h : Keyed { table with rows })
    (hchange : ∀ row changed, change row = some changed →
      Record.key? changed table.key = Record.key? row table.key) :
    Keyed { table with rows := reworked picked change rows } := by
  have hkey : ∀ row changed, (if row ∈ picked then change row else some row) = some changed →
      Record.key? changed table.key = Record.key? row table.key := by
    intro row changed hrow
    split at hrow
    · exact hchange row changed hrow
    · cases hrow
      rfl
  constructor
  · have hd := h.distinct
    rw [DistinctKeys, keys, List.pairwise_filterMap] at hd ⊢
    rw [Table.reworked, List.pairwise_filterMap]
    refine hd.imp ?_
    intro row other hdiffer changed hrow changed' hother
    rw [hkey row changed hrow, hkey other changed' hother]
    exact hdiffer
  · intro changed hm
    obtain ⟨row, hrow, hchanged⟩ := List.mem_filterMap.mp hm
    change (Record.key? changed table.key).isSome = true
    rw [hkey row changed hchanged]
    exact h.isSome row hrow

theorem map {f : Record → Record} (h : Keyed table)
    (hf : ∀ row ∈ table.rows, Record.key? (f row) table.key = Record.key? row table.key) :
    Keyed { table with rows := table.rows.map f } := by
  have hkeys : keys { table with rows := table.rows.map f } = table.keys := by
    rw [keys, keys, List.filterMap_map]
    exact List.filterMap_congr hf
  constructor
  · rw [DistinctKeys, hkeys]
    exact h.distinct
  · intro changed hm
    obtain ⟨row, hrow, rfl⟩ := List.mem_map.mp hm
    change (Record.key? (f row) table.key).isSome = true
    rw [hf row hrow]
    exact h.isSome row hrow

theorem delete_eq (h : Keyed table) (hm : row ∈ table.rows) (hk : Record.key? row table.key = some id) :
    table.delete id = .ok { table with rows := Table.reworked [row] (fun _ => none) table.rows } := by
  have hany : table.rows.any (table.hasKey id) = true :=
    List.any_eq_true.mpr ⟨row, hm, (h.hasKey_iff_eq hm hk hm).mpr rfl⟩
  have hrows : (table.rows.filter fun other => !table.hasKey id other) = table.rows.filter fun other => other ∉ [row] := by
    apply List.filter_congr
    intro other hother
    rw [Bool.eq_iff_iff, Bool.not_eq_true', Bool.eq_false_iff, ne_eq, h.hasKey_iff_eq hm hk hother]
    simp
  rw [delete, if_pos hany, hrows, reworked_none]

theorem update_eq (h : Keyed table) (hm : row ∈ table.rows) (hk : Record.key? row table.key = some id)
    (hcolumns : ∀ name ∈ Entries.names changes, name ∈ table.columns) :
    table.update id changes = .ok (table.write changes row,
      { table with rows := Table.reworked [row] (fun row => some (table.write changes row)) table.rows }) := by
  obtain ⟨record, next, hupdate⟩ := update_isOk hm hk hcolumns
  obtain ⟨before, after, hrows, rfl, rfl⟩ := update_of_mem h.distinct hm hk hupdate
  have hnodup := h.nodup
  rw [hrows, List.nodup_append, List.nodup_cons] at hnodup
  obtain ⟨_, ⟨hafter, _⟩, hbefore⟩ := hnodup
  -- The row stands between others, which stay.
  have hkeep : ∀ others : List Record, row ∉ others →
      (others.map fun other => if other ∈ [row] then table.write changes other else other) = others := by
    intro others hrow
    refine (List.map_congr_left ?_).trans (List.map_id others)
    intro other hother
    have hne : other ∉ [row] := fun hmem => hrow (List.mem_singleton.mp hmem ▸ hother)
    rw [if_neg hne]
    rfl
  have hrow : row ∉ before := fun hmem => hbefore row hmem row List.mem_cons_self rfl
  rw [hupdate, reworked_some, hrows, List.map_append, List.map_cons, hkeep before hrow, hkeep after hafter,
    if_pos (List.mem_singleton_self row)]

end Keyed

end

end Table

end RowStore
