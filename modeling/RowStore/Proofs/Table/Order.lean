import Mathlib.Data.List.Forall2
import Mathlib.Data.List.Nodup
import RowStore.Proofs.Table.Rows

/-!
# The order of rows

Rows stand in the order in which they were inserted. Of the writes, an insert puts rows at the end, an update leaves
every row where it is, with the key it has, and a delete takes rows out from between the others. What one write does of
this kind, a list of writes of that kind does as well.
-/

namespace RowStore.Table

set_option autoImplicit false

variable {table next last : Table} {row row' row'' : Record}

/-- A row and what writes have made of it. -/
structure Rewritten (table : Table) (row row' : Record) : Prop where
  key_eq : row'.lookup table.key = row.lookup table.key
  written : ∃ changes, row' = table.write changes row

/-- How the rows after an operation are related to those before it. -/
inductive Effect where
  | same | appended | rewritten | thinned

/-- The rows of a table as an operation leaves them. A row that is rewritten stands where it stood. -/
def Effect.Relates (table next : Table) : Effect → Prop
  | same => next.rows = table.rows
  | appended => table.rows <+: next.rows
  | rewritten => List.Forall₂ table.Rewritten table.rows next.rows
  | thinned => next.rows.Sublist table.rows

def Write.effect : Write → Effect
  | .insert _ => .appended
  | .update _ _ => .rewritten
  | .delete _ | .clear => .thinned

theorem rewritten_write (table : Table) (changes row : Record) : table.Rewritten row (table.write changes row) :=
  ⟨lookup_key_write, changes, rfl⟩

theorem write_congr (h : next.key = table.key) (changes row : Record) :
    next.write changes row = table.write changes row := by
  rw [write, write, h]

theorem Rewritten.refl (table : Table) (row : Record) : table.Rewritten row row :=
  rewritten_write table [] row

theorem Rewritten.trans (hkey : next.key = table.key) (h : table.Rewritten row row') (h' : next.Rewritten row' row'') :
    table.Rewritten row row'' := by
  obtain ⟨changes, rfl⟩ := h.written
  obtain ⟨more, rfl⟩ := h'.written
  refine ⟨?_, changes ++ more, ?_⟩
  · rw [← h.key_eq, ← hkey, h'.key_eq]
  · rw [write_congr hkey, write, write, write, List.foldl_append]

theorem forall₂_rewritten_refl (table : Table) (rows : List Record) : List.Forall₂ table.Rewritten rows rows :=
  List.forall₂_same.mpr fun row _ => .refl table row

theorem forall₂_rewritten_trans {rows rows' rows'' : List Record} (hkey : next.key = table.key)
    (h : List.Forall₂ table.Rewritten rows rows') (h' : List.Forall₂ next.Rewritten rows' rows'') :
    List.Forall₂ table.Rewritten rows rows'' := by
  induction h generalizing rows'' with
  | nil => exact List.forall₂_nil_left_iff.mpr (List.forall₂_nil_left_iff.mp h')
  | cons hrow _ ih =>
    obtain ⟨row'', rest'', hrow', hrest', rfl⟩ := List.forall₂_cons_left_iff.mp h'
    exact .cons (hrow.trans hkey hrow') (ih hrest')

namespace Effect

theorem Relates.refl (effect : Effect) (table : Table) : effect.Relates table table := by
  cases effect with
  | same => rfl
  | appended => exact List.prefix_refl _
  | rewritten => exact forall₂_rewritten_refl table _
  | thinned => exact List.Sublist.refl _

theorem Relates.trans {effect : Effect} (hkey : next.key = table.key) (h : effect.Relates table next)
    (h' : effect.Relates next last) : effect.Relates table last := by
  cases effect with
  | same => exact Eq.trans h' h
  | appended => exact List.IsPrefix.trans h h'
  | rewritten => exact forall₂_rewritten_trans hkey h h'
  | thinned => exact List.Sublist.trans h' h

end Effect

/-- Every write has its effect, whether or not it succeeds. -/
theorem relates_perform (table : Table) (w : Write) : w.effect.Relates table (table.perform w) := by
  cases w with
  | insert attributes =>
    rw [perform]
    cases h : table.insert attributes with
    | error e => exact List.prefix_refl _
    | ok result =>
      rcases insert_cases h with ⟨_, _, _, hnext⟩ | ⟨_, _, _, hnext⟩ <;> simp [hnext, Write.effect, Effect.Relates]
  | update id changes =>
    rw [perform]
    cases h : table.update id changes with
    | error e => exact .refl .rewritten table
    | ok result =>
      obtain ⟨row, next⟩ := result
      -- One row is written; those before and after it count as written with no changes.
      obtain ⟨_, before, old, after, hrows, _, _, rfl, rfl⟩ := update_cases h
      rw [Write.effect, Effect.Relates, hrows]
      exact List.rel_append (forall₂_rewritten_refl table before)
        (.cons (rewritten_write table changes old) (forall₂_rewritten_refl table after))
  | delete id =>
    rw [perform]
    cases h : table.delete id with
    | error e => exact List.Sublist.refl _
    | ok next =>
      obtain ⟨_, rfl⟩ := delete_cases h
      exact List.filter_sublist
  | clear => exact List.nil_sublist _

/-- Writes of one effect have it together. -/
theorem relates_run {effect : Effect} {writes : List Write} (h : ∀ w ∈ writes, w.effect = effect) (table : Table) :
    effect.Relates table (table.run writes) := by
  induction writes generalizing table with
  | nil => exact .refl effect table
  | cons w rest ih =>
    obtain ⟨rfl, hrest⟩ := List.forall_mem_cons.mp h
    exact (relates_perform table w).trans (sameFrame_perform table w).2.1 (ih hrest (table.perform w))

theorem nodup_addColumns {taken : List String} (h : taken.Nodup) (more : List String) :
    (Plan.addColumns taken more).Nodup := by
  obtain ⟨added, hadded, hmem, horder⟩ := exists_addColumns taken more
  have hnodup : added.Nodup := by
    refine horder.imp ?_
    rintro column _ hlt rfl
    exact Nat.lt_irrefl _ hlt
  rw [hadded, List.nodup_append]
  refine ⟨h, hnodup, ?_⟩
  rintro column htaken _ hm rfl
  exact ((hmem column).mp hm).2 htaken

end RowStore.Table
