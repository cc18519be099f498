import RowStore.Proofs.Query.Inserted

/-!
# Controls and their entries

A query is accepted just when each of its entries is, taken alone, and refused for the first one that is not. A control
comes from the entry of its own name and from no other one, so that of the order of the entries nothing is left but that of
the predicate.
-/

namespace RowStore

set_option autoImplicit false

namespace Controls

variable {controls next : Controls} {entry : String × Value} {fields : Fields} {e : QueryError}

/-- The fault of an entry, taken alone. -/
def fault? (entry : String × Value) : Option QueryError :=
  match Controls.none.read entry with
  | .ok _ => .none
  | .error e => some e

/-- What has been read before an entry is not looked at. -/
theorem read_eq_error_iff : controls.read entry = .error e ↔ fault? entry = some e := by
  have hsame : controls.read entry = .error e ↔ Controls.none.read entry = .error e := by
    unfold read
    split
    · cases readSelect entry.2 <;> simp [bind, Except.bind, pure, Except.pure]
    · split
      · cases readSort entry.2 <;> simp [bind, Except.bind, pure, Except.pure]
      · split
        · cases readCount limitKey entry.2 <;> simp [bind, Except.bind, pure, Except.pure]
        · split
          · cases readCount skipKey entry.2 <;> simp [bind, Except.bind, pure, Except.pure]
          · simp [pure, Except.pure]
  rw [hsame, fault?]
  cases Controls.none.read entry <;> simp

theorem foldlM_read_eq_error_iff : fields.foldlM read controls = .error e ↔ fields.findSome? fault? = some e := by
  induction fields generalizing controls with
  | nil => simp [pure, Except.pure]
  | cons entry rest ih =>
    rw [List.foldlM_cons, List.findSome?_cons]
    cases hread : controls.read entry with
    | error first =>
      rw [read_eq_error_iff.mp hread]
      simp [bind, Except.bind]
    | ok middle =>
      have hfault : fault? entry = .none := by
        by_contra hsome
        obtain ⟨first, hfirst⟩ := Option.ne_none_iff_exists'.mp hsome
        rw [read_eq_error_iff.mpr hfirst] at hread
        cases hread
      rw [hfault]
      exact ih

theorem exists_foldlM_read_iff : (∃ next, fields.foldlM read controls = .ok next) ↔ ∀ entry ∈ fields, fault? entry = .none := by
  rw [← List.findSome?_eq_none_iff]
  cases hread : fields.foldlM read controls with
  | error e =>
    rw [foldlM_read_eq_error_iff.mp hread]
    simp
  | ok next =>
    refine iff_of_true ⟨next, rfl⟩ ?_
    by_contra hsome
    obtain ⟨e, he⟩ := Option.ne_none_iff_exists'.mp hsome
    rw [foldlM_read_eq_error_iff.mpr he] at hread
    cases hread

namespace Part

variable {α : Type} {part : Part α} {value : Value}

/-- What the entries of a query say of a control; without an entry of its name it is as without a query. -/
def Gives (part : Part α) (fields : Fields) (a : α) : Prop :=
  match fields.lookup part.name with
  | some value => part.ofValue value = .ok a
  | .none => a = part.get Controls.none

theorem gives_of_foldlM (hpart : part.Reads) (hd : Entries.Distinct fields)
    (h : fields.foldlM read Controls.none = .ok next) : part.Gives fields (part.get next) := by
  unfold Gives
  generalize Controls.none = controls at h ⊢
  induction fields generalizing controls with
  | nil =>
    cases h
    rfl
  | cons entry rest ih =>
    obtain ⟨name, value⟩ := entry
    obtain ⟨hnew, hrest⟩ := List.nodup_cons.mp hd
    rw [List.foldlM_cons] at h
    rw [Entries.lookup_cons]
    cases hfirst : controls.read (name, value) with
    | error e =>
      rw [hfirst] at h
      cases h
    | ok middle =>
      rw [hfirst] at h
      by_cases hname : part.name = name
      · subst hname
        rw [if_pos rfl, hpart.get_of_foldlM h hnew]
        have hown := hpart.own controls value
        rw [hfirst] at hown
        exact hown.symm
      · rw [if_neg hname, ← hpart.others hfirst (Ne.symm hname)]
        exact ih hrest middle h

theorem Gives.unique {a b : α} (ha : part.Gives fields a) (hb : part.Gives fields b) : a = b := by
  unfold Gives at ha hb
  cases hlookup : fields.lookup part.name with
  | none =>
    rw [hlookup] at ha hb
    exact ha.trans hb.symm
  | some value =>
    rw [hlookup] at ha hb
    exact Except.ok.inj (ha.symm.trans hb)

theorem Gives.congr {other : Fields} {a : α} (h : fields.lookup part.name = other.lookup part.name)
    (ha : part.Gives fields a) : part.Gives other a := by
  rwa [Gives, ← h]

end Part

end Controls

namespace Query

variable {fields other : Fields} {policy : Option Policy} {q : Query} {entry : String × Value} {e : QueryError}

theorem ofFields_eq_error_iff : ofFields fields policy = .error e ↔ fields.findSome? Controls.fault? = some e := by
  have hfold := @Controls.foldlM_read_eq_error_iff Controls.none fields e
  rw [← hfold, ofFields]
  cases fields.foldlM Controls.read Controls.none <;> simp [bind, Except.bind, pure, Except.pure]

theorem exists_ofFields_iff : (∃ q, ofFields fields policy = .ok q) ↔ ∀ entry ∈ fields, Controls.fault? entry = none := by
  have hfold := @Controls.exists_foldlM_read_iff Controls.none fields
  rw [← hfold, ofFields]
  cases fields.foldlM Controls.read Controls.none <;> simp [bind, Except.bind, pure, Except.pure]

theorem exists_ofFields_singleton_iff : (∃ q, ofFields [entry] policy = .ok q) ↔ Controls.fault? entry = none := by
  rw [exists_ofFields_iff, List.forall_mem_singleton]

/-- A control of a query whose other entries are accepted is what its own entry says, or that entry is refused. -/
theorem map_get_ofFields {α : Type} {part : Controls.Part α} {value : Value} {before after : Fields}
    (hpart : part.Reads) (hd : Entries.Distinct (before ++ (part.name, value) :: after))
    (hothers : ∀ entry ∈ before ++ after, ∃ q, ofFields [entry] none = .ok q) :
    (ofFields (before ++ (part.name, value) :: after) none).map (fun q => part.get q.controls) = part.ofValue value := by
  simp only [exists_ofFields_singleton_iff, List.forall_mem_append] at hothers
  rw [← hpart.own Controls.none value]
  cases hread : Controls.none.read (part.name, value) with
  | error e =>
    have hfirst : (before ++ (part.name, value) :: after).findSome? Controls.fault? = some e := by
      rw [List.findSome?_append, List.findSome?_eq_none_iff.mpr hothers.1, Option.none_or, List.findSome?_cons,
        Controls.read_eq_error_iff.mp hread]
    rw [ofFields_eq_error_iff.mpr hfirst]
    rfl
  | ok next =>
    have hfault : Controls.fault? (part.name, value) = none := by
      rw [Controls.fault?, hread]
    obtain ⟨q, hq⟩ : ∃ q, ofFields (before ++ (part.name, value) :: after) none = .ok q := by
      rw [exists_ofFields_iff, List.forall_mem_append, List.forall_mem_cons]
      exact ⟨hothers.1, hfault, hothers.2⟩
    obtain ⟨controls, hfold, rfl⟩ := exists_controls hq
    have hgives := Controls.Part.gives_of_foldlM hpart hd hfold
    have hlookup : (before ++ (part.name, value) :: after).lookup part.name = some value :=
      Entries.lookup_of_mem hd (List.mem_append_right _ List.mem_cons_self)
    rw [Controls.Part.Gives, hlookup] at hgives
    have hown := hpart.own Controls.none value
    rw [hread] at hown
    rw [hq, hown]
    exact hgives.symm

/-- What a query is split into, under a policy or without one. -/
structure Splits (fields : Fields) (policy : Option Policy) (q : Query) : Prop where
  predicate_eq : q.predicate = fields.filter fun entry => entry.1 ∉ Controls.keys
  select : Controls.selection.Gives fields q.controls.select
  sort : Controls.sorting.Gives fields q.controls.sort
  sort_fields : ∀ entries, fields.lookup Controls.sortKey = some (.object entries) →
    q.controls.sort.map SortKey.field = Entries.names entries
  skip : Controls.skipping.Gives fields q.controls.skip
  limit : ∃ requested, Controls.limiting.Gives fields requested ∧
    q.controls.limit = policy.elim requested fun p => p.resolve requested

theorem Splits.resolved {p : Policy} (h : Splits fields (some p) q) : p.resolve q.controls.limit = q.controls.limit ∧
    (p.enabled = true → ∃ n, q.controls.limit = some n ∧ ∀ most, p.maxSize = some most → n ≤ most) := by
  obtain ⟨requested, _, hlimit⟩ := h.limit
  rw [Option.elim_some] at hlimit
  rw [hlimit]
  refine ⟨p.resolve_resolve requested, ?_⟩
  intro henabled
  obtain ⟨size, _, hresolve⟩ := Policy.resolve_of_enabled henabled requested
  exact ⟨_, hresolve, fun most hmost => Policy.cap_le hmost _⟩

end Query

end RowStore
