/-!
# Entries in the order they were written

A list of named entries whose names do not repeat, seen through `List.lookup`. A new name goes to the end and a
known one keeps its place; taking an entry out puts the last one where it stood.
-/

namespace RowStore

set_option autoImplicit false

abbrev Entries (α : Type) := List (String × α)

namespace Entries

variable {α : Type}

def names (entries : Entries α) : List String :=
  entries.map Prod.fst

/-- Writes an entry: in its place when the name is known, else at the end. -/
def insert (name : String) (value : α) : Entries α → Entries α
  | [] => [(name, value)]
  | (known, old) :: rest =>
    if known = name then (name, value) :: rest else (known, old) :: insert name value rest

def insertAll (entries more : Entries α) : Entries α :=
  more.foldl (fun acc entry => insert entry.1 entry.2 acc) entries

/-- Entries from a list of writes: a repeated name has its first place and its last value. -/
def ofList (writes : List (String × α)) : Entries α :=
  insertAll [] writes

/-- Takes an entry out; the last entry moves to its place. -/
def erase (name : String) (entries : Entries α) : Entries α :=
  match entries.getLast? with
  | none => []
  | some last =>
    if last.1 = name then entries.dropLast
    else if name ∈ names entries then
      entries.dropLast.map fun entry => if entry.1 = name then last else entry
    else entries

def Distinct (entries : Entries α) : Prop :=
  (names entries).Nodup

@[simp] theorem names_nil : names ([] : Entries α) = [] := rfl

@[simp] theorem names_cons (entry : String × α) (rest : Entries α) :
    names (entry :: rest) = entry.1 :: names rest := rfl

theorem lookup_cons (other name : String) (value : α) (rest : Entries α) :
    List.lookup other ((name, value) :: rest) = if other = name then some value else rest.lookup other := by
  rw [List.lookup_cons]
  by_cases h : other = name
  · simp [h]
  · simp [h, beq_eq_false_iff_ne.mpr h]

theorem lookup_insert (name other : String) (value : α) (entries : Entries α) :
    (insert name value entries).lookup other
      = if other = name then some value else entries.lookup other := by
  induction entries with
  | nil => simp [insert, lookup_cons]
  | cons entry rest ih =>
    obtain ⟨known, old⟩ := entry
    by_cases hk : known = name
    · subst hk
      by_cases h : other = known <;> simp [insert, lookup_cons, h]
    · by_cases h : other = known
      · subst h
        simp [insert, hk]
      · simp [insert, lookup_cons, hk, h, ih]

/-- The names after a write: as before when the name is known, else one more at the end. -/
theorem names_insert (name : String) (value : α) (entries : Entries α) :
    names (insert name value entries)
      = if name ∈ names entries then names entries else names entries ++ [name] := by
  induction entries with
  | nil => rw [insert, names_nil, if_neg List.not_mem_nil, names_cons, names_nil, List.nil_append]
  | cons entry rest ih =>
    obtain ⟨known, old⟩ := entry
    by_cases hk : known = name
    · simp [insert, hk]
    · have hn : ¬ name = known := fun h => hk h.symm
      simp only [insert, hk, if_false, names_cons, ih, List.mem_cons, hn, false_or]
      split <;> rfl

theorem distinct_insert {name : String} {value : α} {entries : Entries α}
    (h : Distinct entries) : Distinct (insert name value entries) := by
  unfold Distinct at *
  rw [names_insert]
  split
  · exact h
  · rename_i hn
    rw [List.nodup_append]
    refine ⟨h, by simp, ?_⟩
    intro a ha b hb hab
    rw [List.mem_singleton] at hb
    exact hn (hb ▸ hab ▸ ha)

theorem distinct_insertAll {entries : Entries α} (more : Entries α) (h : Distinct entries) :
    Distinct (insertAll entries more) := by
  induction more generalizing entries with
  | nil => exact h
  | cons entry rest ih => exact ih (distinct_insert h)

end Entries

end RowStore
