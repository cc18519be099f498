import RowStore.Query

/-!
# What a query is split into

A query is read entry by entry, and each control is taken from the entries of its own name. What is left is the predicate.
-/

namespace RowStore

set_option autoImplicit false

namespace Controls

variable {controls next : Controls} {entry : String × Value} {fields : Fields}

theorem exists_of_bind_pure {α β : Type} {outcome : Except QueryError α} {f : α → β} {b : β}
    (h : (outcome >>= fun a => pure (f a)) = .ok b) : ∃ a, outcome = .ok a ∧ f a = b := by
  cases outcome with
  | error e => cases h
  | ok a =>
    cases h
    exact ⟨a, rfl, rfl⟩

/-- An entry that is read changes the control of its name and no other one. -/
theorem read_cases (h : controls.read entry = .ok next) :
    (entry.1 = selectKey ∧ ∃ select, readSelect entry.2 = .ok select ∧ next = { controls with select }) ∨
    (entry.1 = sortKey ∧ ∃ sort, readSort entry.2 = .ok sort ∧ next = { controls with sort }) ∨
    (entry.1 = limitKey ∧ ∃ limit, readCount limitKey entry.2 = .ok limit ∧ next = { controls with limit }) ∨
    (entry.1 = skipKey ∧ ∃ skip, readCount skipKey entry.2 = .ok skip ∧ next = { controls with skip }) ∨
    entry.1 ∉ [selectKey, sortKey, limitKey, skipKey] ∧ next = controls := by
  unfold read at h
  split at h
  · rename_i hselect
    obtain ⟨select, hread, rfl⟩ := exists_of_bind_pure h
    exact .inl ⟨hselect, select, hread, rfl⟩
  · rename_i hselect
    split at h
    · rename_i hsort
      obtain ⟨sort, hread, rfl⟩ := exists_of_bind_pure h
      exact .inr (.inl ⟨hsort, sort, hread, rfl⟩)
    · rename_i hsort
      split at h
      · rename_i hlimit
        obtain ⟨limit, hread, rfl⟩ := exists_of_bind_pure h
        exact .inr (.inr (.inl ⟨hlimit, limit, hread, rfl⟩))
      · rename_i hlimit
        split at h
        · rename_i hskip
          obtain ⟨skip, hread, rfl⟩ := exists_of_bind_pure h
          exact .inr (.inr (.inr (.inl ⟨hskip, skip, hread, rfl⟩)))
        · rename_i hskip
          cases h
          refine .inr (.inr (.inr (.inr ⟨?_, rfl⟩)))
          simp only [List.mem_cons, List.not_mem_nil, or_false, not_or]
          exact ⟨hselect, hsort, hlimit, hskip⟩

/-- A control: the name of its entry, what a value says of it, and where it is kept. -/
structure Part (α : Type) where
  name : String
  ofValue : Value → Except QueryError α
  get : Controls → α

def selection : Part (Option (List String)) := ⟨selectKey, readSelect, select⟩
def sorting : Part (List SortKey) := ⟨sortKey, readSort, sort⟩
def limiting : Part (Option Nat) := ⟨limitKey, readCount limitKey, limit⟩
def skipping : Part (Option Nat) := ⟨skipKey, readCount skipKey, skip⟩

namespace Part

variable {α : Type} {part : Part α} {put : Controls → α → Controls}

/-- A control that is read from its own entry and not touched by others. -/
structure Reads (part : Part α) : Prop where
  own : ∀ controls value, (read controls (part.name, value)).map part.get = part.ofValue value
  others : ∀ {controls next entry}, read controls entry = .ok next → entry.1 ≠ part.name →
    part.get next = part.get controls

/-- A control with a place of its own: its entry puts it there, and what is put elsewhere leaves it. -/
structure Keeps (part : Part α) (put : Controls → α → Controls) : Prop where
  read : ∀ controls value, controls.read (part.name, value) = part.ofValue value >>= fun a => pure (put controls a)
  get_put : ∀ controls a, part.get (put controls a) = a
  select : part.name = selectKey ∨ ∀ controls select, part.get { controls with select } = part.get controls
  sort : part.name = sortKey ∨ ∀ controls sort, part.get { controls with sort } = part.get controls
  limit : part.name = limitKey ∨ ∀ controls limit, part.get { controls with limit } = part.get controls
  skip : part.name = skipKey ∨ ∀ controls skip, part.get { controls with skip } = part.get controls

theorem Keeps.reads (h : part.Keeps put) : part.Reads where
  own controls value := by
    rw [h.read]
    cases part.ofValue value with
    | error e => rfl
    | ok a => exact congrArg Except.ok (h.get_put controls a)
  others hread hname := by
    rcases read_cases hread with ⟨hentry, select, _, rfl⟩ | ⟨hentry, sort, _, rfl⟩ | ⟨hentry, limit, _, rfl⟩ |
      ⟨hentry, skip, _, rfl⟩ | ⟨_, rfl⟩
    · exact (h.select.resolve_left fun heq => hname (hentry.trans heq.symm)) _ select
    · exact (h.sort.resolve_left fun heq => hname (hentry.trans heq.symm)) _ sort
    · exact (h.limit.resolve_left fun heq => hname (hentry.trans heq.symm)) _ limit
    · exact (h.skip.resolve_left fun heq => hname (hentry.trans heq.symm)) _ skip
    · rfl

/-- A control is as it was after all entries of other names. -/
theorem Reads.get_of_foldlM (hpart : part.Reads) (h : fields.foldlM Controls.read controls = .ok next)
    (hname : part.name ∉ Entries.names fields) : part.get next = part.get controls := by
  induction fields generalizing controls with
  | nil =>
    cases h
    rfl
  | cons entry rest ih =>
    rw [Entries.names_cons, List.mem_cons, not_or] at hname
    rw [List.foldlM_cons] at h
    cases hfirst : controls.read entry with
    | error e =>
      rw [hfirst] at h
      cases h
    | ok middle =>
      rw [hfirst] at h
      exact (ih h hname.2).trans (hpart.others hfirst (Ne.symm hname.1))

end Part

theorem limiting_keeps : limiting.Keeps fun controls limit => { controls with limit } :=
  ⟨fun _ _ => rfl, fun _ _ => rfl, .inr fun _ _ => rfl, .inr fun _ _ => rfl, .inl rfl, .inr fun _ _ => rfl⟩

theorem skipping_keeps : skipping.Keeps fun controls skip => { controls with skip } :=
  ⟨fun _ _ => rfl, fun _ _ => rfl, .inr fun _ _ => rfl, .inr fun _ _ => rfl, .inr fun _ _ => rfl, .inl rfl⟩

end Controls

namespace Query

variable {fields : Fields} {policy : Option Policy} {q : Query}

theorem exists_controls (hq : ofFields fields policy = .ok q) :
    ∃ controls, fields.foldlM Controls.read Controls.none = .ok controls ∧
      q = ⟨{ controls with limit := policy.elim controls.limit fun p => p.resolve controls.limit },
        predicateOf fields⟩ := by
  unfold ofFields at hq
  cases hread : fields.foldlM Controls.read Controls.none with
  | error e =>
    rw [hread] at hq
    cases hq
  | ok controls =>
    rw [hread] at hq
    cases hq
    exact ⟨controls, rfl, by cases policy <;> rfl⟩

/-- A control without an entry is as without a query. -/
theorem get_eq_none {α : Type} {part : Controls.Part α} (hpart : part.Reads) (hq : ofFields fields none = .ok q)
    (hname : part.name ∉ Entries.names fields) : part.get q.controls = part.get Controls.none := by
  obtain ⟨controls, hread, rfl⟩ := exists_controls hq
  exact hpart.get_of_foldlM hread hname

end Query

end RowStore
