import Mathlib.Data.List.Basic
import Mathlib.Data.List.Induction
import RowStore.Table

/-!
# Runs of writes

A write that fails leaves a table as it is, so that a list of writes takes every table to another one. What a write does
is said once for each kind of it: which rows there are afterwards, and where the sequence stands.
-/

namespace RowStore

set_option autoImplicit false

namespace Table

inductive Write where
  | insert (attributes : Record)
  | update (id : Value) (changes : Record)
  | delete (id : Value)
  | clear

/-- The table after a write, whether or not it succeeds. -/
def perform (table : Table) : Write → Table
  | .insert attributes => match table.insert attributes with
    | .ok (_, next) => next
    | .error _ => table
  | .update id changes => match table.update id changes with
    | .ok (_, next) => next
    | .error _ => table
  | .delete id => match table.delete id with
    | .ok next => next
    | .error _ => table
  | .clear => table.clear

def run (table : Table) (writes : List Write) : Table :=
  writes.foldl perform table

def opened (name key : String) (columns : List String) (defaults : List (String × Value)) : Table :=
  defaults.foldl (fun table entry => table.withDefault entry.1 entry.2) (create name key columns)

theorem run_append (table : Table) (writes more : List Write) :
    table.run (writes ++ more) = (table.run writes).run more := List.foldl_append

theorem run_concat (table : Table) (writes : List Write) (w : Write) :
    table.run (writes ++ [w]) = (table.run writes).perform w := by
  rw [run_append]
  rfl

section

variable {table next : Table} {attributes changes : Record} {id : Value}

/-- An insert that succeeds puts one row at the end. Its key is one that no row has, or the next one of the sequence. -/
theorem insert_cases (h : table.insert attributes = .ok (id, next)) :
    (table.unknownColumn? attributes = none ∧ Record.key? attributes table.key = some id ∧
      table.rows.any (table.hasKey id) = false ∧
      next = { table with rows := table.rows ++ [table.newRow id attributes], nextId := table.advance id }) ∨
    (table.unknownColumn? attributes = none ∧ Record.key? attributes table.key = none ∧
      id = .ofInt table.nextId ∧
      next = { table with rows := table.rows ++ [table.newRow id attributes],
                          nextId := successor table.nextId }) := by
  unfold insert at h
  cases hu : table.unknownColumn? attributes with
  | some column => rw [hu] at h; cases h
  | none =>
    rw [hu] at h
    cases hk : Record.key? attributes table.key with
    | none =>
      rw [hk] at h
      cases h
      exact .inr ⟨rfl, rfl, rfl, rfl⟩
    | some given =>
      rw [hk] at h
      cases hany : table.rows.any (table.hasKey given) with
      | true => simp [hany] at h
      | false =>
        simp only [hany, Bool.false_eq_true, if_false] at h
        cases h
        exact .inl ⟨rfl, rfl, hany, rfl⟩

theorem changeFirst_eq_some {α : Type} {test : α → Bool} {change : α → α} {items changed : List α} {item : α}
    (h : changeFirst test change items = some (item, changed)) :
    ∃ before old after, items = before ++ old :: after ∧ (∀ other ∈ before, test other = false) ∧ test old = true ∧
      item = change old ∧ changed = before ++ change old :: after := by
  induction items generalizing changed with
  | nil => cases h
  | cons first rest ih =>
    rw [changeFirst] at h
    by_cases ht : test first = true
    · rw [if_pos ht] at h
      cases h
      exact ⟨[], first, rest, rfl, by simp, ht, rfl, rfl⟩
    · rw [if_neg ht, Option.map_eq_some_iff] at h
      obtain ⟨⟨item', rest'⟩, hrest, he⟩ := h
      cases he
      obtain ⟨before, old, after, rfl, hbefore, hold, hitem, rfl⟩ := ih hrest
      have hfirst : ∀ other ∈ first :: before, test other = false :=
        List.forall_mem_cons.mpr ⟨by simpa using ht, hbefore⟩
      exact ⟨first :: before, old, after, rfl, hfirst, hold, hitem, rfl⟩

/-- An update that succeeds writes into the first row with the key, and leaves all the others. -/
theorem update_cases {row : Record} (h : table.update id changes = .ok (row, next)) :
    table.unknownColumn? changes = none ∧ ∃ before old after, table.rows = before ++ old :: after ∧
      (∀ other ∈ before, table.hasKey id other = false) ∧ table.hasKey id old = true ∧
      row = table.write changes old ∧ next = { table with rows := before ++ row :: after } := by
  unfold update at h
  cases hu : table.unknownColumn? changes with
  | some column => rw [hu] at h; cases h
  | none =>
    rw [hu] at h
    cases hc : changeFirst (table.hasKey id) (table.write changes) table.rows with
    | none => rw [hc] at h; cases h
    | some found =>
      obtain ⟨found, rows⟩ := found
      rw [hc] at h
      cases h
      obtain ⟨before, old, after, hrows, hbefore, hold, rfl, rfl⟩ := changeFirst_eq_some hc
      exact ⟨rfl, before, old, after, hrows, hbefore, hold, rfl, rfl⟩

theorem delete_cases (h : table.delete id = .ok next) :
    table.rows.any (table.hasKey id) = true ∧
      next = { table with rows := table.rows.filter fun row => !table.hasKey id row } := by
  unfold delete at h
  split at h
  · rename_i hany
    cases h
    exact ⟨hany, rfl⟩
  · cases h

/-- A property of tables that every kind of write keeps is kept by every write. -/
theorem perform_induction {P : Table → Prop} {table : Table} (w : Write) (same : P table)
    (insert : ∀ {attributes id next}, w = .insert attributes → table.insert attributes = .ok (id, next) → P next)
    (update : ∀ {id changes row next}, table.update id changes = .ok (row, next) → P next)
    (delete : ∀ {id next}, table.delete id = .ok next → P next) (clear : P table.clear) :
    P (table.perform w) := by
  cases w with
  | insert attributes =>
    rw [perform]
    cases h : table.insert attributes with
    | error _ => exact same
    | ok result => exact insert rfl h
  | update id changes =>
    rw [perform]
    cases h : table.update id changes with
    | error _ => exact same
    | ok result => exact update h
  | delete id =>
    rw [perform]
    cases h : table.delete id with
    | error _ => exact same
    | ok next => exact delete h
  | clear => exact clear

end

/-- The parts of a table that no write changes. -/
def SameFrame (table next : Table) : Prop :=
  next.name = table.name ∧ next.key = table.key ∧ next.columns = table.columns ∧ next.defaults = table.defaults

theorem SameFrame.refl (table : Table) : SameFrame table table := ⟨rfl, rfl, rfl, rfl⟩

theorem SameFrame.trans {a b c : Table} (hab : SameFrame a b) (hbc : SameFrame b c) : SameFrame a c :=
  ⟨hbc.1.trans hab.1, hbc.2.1.trans hab.2.1, hbc.2.2.1.trans hab.2.2.1, hbc.2.2.2.trans hab.2.2.2⟩

theorem sameFrame_perform (table : Table) (w : Write) : SameFrame table (table.perform w) := by
  refine perform_induction w (.refl table) ?_ ?_ ?_ (.refl table)
  · intro attributes id next _ h
    rcases insert_cases h with ⟨_, _, _, rfl⟩ | ⟨_, _, _, rfl⟩ <;> exact .refl table
  · intro id changes row next h
    obtain ⟨_, _, _, _, _, _, _, _, rfl⟩ := update_cases h
    exact .refl table
  · intro id next h
    obtain ⟨_, rfl⟩ := delete_cases h
    exact .refl table

theorem sameFrame_run (table : Table) (writes : List Write) : SameFrame table (table.run writes) := by
  induction writes generalizing table with
  | nil => exact .refl table
  | cons w rest ih => exact (sameFrame_perform table w).trans (ih (table.perform w))

theorem prefix_of_concat {before writes : List Write} {w : Write} (h : before ++ [w] <+: writes) : before <+: writes :=
  (List.prefix_append before [w]).trans h

/-- What holds of a table, and is kept by every write of a list where it stands, holds all along the list. -/
theorem prefix_induction {P : Table → Prop} {table : Table} {writes : List Write} (start : P table)
    (step : ∀ before w, before ++ [w] <+: writes → P (table.run before) → P ((table.run before).perform w)) :
    ∀ before, before <+: writes → P (table.run before) := by
  intro before
  induction before using List.reverseRecOn with
  | nil => exact fun _ => start
  | append_singleton before w ih =>
    intro hprefix
    rw [run_concat]
    exact step before w hprefix (ih (prefix_of_concat hprefix))

theorem pairwise_idxOf_cons {column : String} {rest added : List String} (hne : ∀ other ∈ added, other ≠ column)
    (h : added.Pairwise fun a b => rest.idxOf a < rest.idxOf b) :
    added.Pairwise fun a b => (column :: rest).idxOf a < (column :: rest).idxOf b := by
  refine h.imp_of_mem fun {a b} ha hb hlt => ?_
  rw [List.idxOf_cons_ne rest (Ne.symm (hne a ha)), List.idxOf_cons_ne rest (Ne.symm (hne b hb))]
  exact Nat.succ_lt_succ hlt

/-- Columns are added behind those that are there: each new one once, in the order of their first occurrences. -/
theorem exists_addColumns (taken more : List String) : ∃ added, Plan.addColumns taken more = taken ++ added ∧
    (∀ column, column ∈ added ↔ column ∈ more ∧ column ∉ taken) ∧
    added.Pairwise fun a b => more.idxOf a < more.idxOf b := by
  induction more generalizing taken with
  | nil => exact ⟨[], (List.append_nil taken).symm, by simp, .nil⟩
  | cons column rest ih =>
    rw [Plan.addColumns]
    by_cases htaken : column ∈ taken
    · obtain ⟨added, hadded, hmem, horder⟩ := ih taken
      refine ⟨added, by rw [if_pos (List.contains_iff_mem.mpr htaken), hadded], ?_, pairwise_idxOf_cons ?_ horder⟩
      · intro other
        rw [hmem, List.mem_cons]
        constructor
        · exact fun ⟨hm, hnew⟩ => ⟨.inr hm, hnew⟩
        · rintro ⟨rfl | hm, hnew⟩
          · exact absurd htaken hnew
          · exact ⟨hm, hnew⟩
      · rintro other hm rfl
        exact ((hmem other).mp hm).2 htaken
    · obtain ⟨added, hadded, hmem, horder⟩ := ih (taken ++ [column])
      have hne : ∀ other ∈ added, other ≠ column := by
        rintro other hm rfl
        exact ((hmem other).mp hm).2 (List.mem_append_right _ List.mem_cons_self)
      refine ⟨column :: added, ?_, ?_, List.pairwise_cons.mpr ⟨?_, pairwise_idxOf_cons hne horder⟩⟩
      · rw [if_neg (by rwa [List.contains_iff_mem]), hadded, List.append_assoc, List.singleton_append]
      · intro other
        rw [List.mem_cons, hmem, List.mem_cons, List.mem_append, List.mem_singleton]
        constructor
        · rintro (rfl | ⟨hm, hnew⟩)
          · exact ⟨.inl rfl, htaken⟩
          · exact ⟨.inr hm, fun h => hnew (.inl h)⟩
        · rintro ⟨rfl | hm, hnew⟩
          · exact .inl rfl
          · by_cases he : other = column
            · exact .inl he
            · exact .inr ⟨hm, not_or.mpr ⟨hnew, he⟩⟩
      · intro other hm
        rw [List.idxOf_cons_self, List.idxOf_cons_ne rest (Ne.symm (hne other hm))]
        exact Nat.succ_pos _

theorem mem_addColumns {column : String} {taken : List String} (more : List String) :
    column ∈ Plan.addColumns taken more ↔ column ∈ taken ∨ column ∈ more := by
  obtain ⟨added, hadded, hmem, _⟩ := exists_addColumns taken more
  rw [hadded, List.mem_append, hmem]
  tauto

theorem opened_eq (name key : String) (columns : List String) (defaults : List (String × Value)) :
    opened name key columns defaults
      = { create name key columns with defaults := Entries.insertAll [] defaults } := by
  have h : ∀ table : Table, defaults.foldl (fun t entry => t.withDefault entry.1 entry.2) table
      = { table with defaults := Entries.insertAll table.defaults defaults } := by
    induction defaults with
    | nil => exact fun table => rfl
    | cons entry rest ih => exact fun table => ih (table.withDefault entry.1 entry.2)
  exact h (create name key columns)

theorem key_mem_columns_opened (name key : String) (columns : List String) (defaults : List (String × Value)) :
    (opened name key columns defaults).key ∈ (opened name key columns defaults).columns := by
  rw [opened_eq]
  exact (mem_addColumns columns).mpr (.inl List.mem_cons_self)

end Table

end RowStore
