import RowStore.Proofs.Entries
import RowStore.Proofs.Predicate.Meaning
import RowStore.Proofs.Query.Splitting

/-!
# A field put into a query

A field whose name is not reserved and whose value is no object of operators can be put into any query: the controls
stay as they are, and the predicate asks for the value in that field and for everything it asked of the other fields.
-/

namespace RowStore

set_option autoImplicit false

namespace Query

variable {name : String}

theorem not_mem_controls (h : Predicate.isReserved name = false) : name ∉ Controls.keys := by
  intro hm
  have hreserved : ∀ key ∈ Controls.keys, Predicate.isReserved key = true := by decide
  rw [hreserved name hm] at h
  cases h

theorem read_of_not_mem (h : name ∉ Controls.keys) (controls : Controls) (value : Value) :
    controls.read (name, value) = .ok controls := by
  simp only [Controls.keys, List.mem_cons, List.not_mem_nil, or_false, not_or] at h
  obtain ⟨hselect, hsort, hlimit, hskip, _⟩ := h
  rw [Controls.read, if_neg hselect, if_neg hsort, if_neg hlimit, if_neg hskip]
  rfl

theorem foldlM_read_insert (h : name ∉ Controls.keys) (value : Value) (fields : Fields)
    (controls : Controls) :
    (Entries.insert name value fields).foldlM Controls.read controls = fields.foldlM Controls.read controls := by
  induction fields generalizing controls with
  | nil => rw [Entries.insert, List.foldlM_cons, read_of_not_mem h]; rfl
  | cons entry rest ih =>
    obtain ⟨known, old⟩ := entry
    rw [Entries.insert]
    by_cases hk : known = name
    · subst hk
      rw [if_pos rfl, List.foldlM_cons, List.foldlM_cons, read_of_not_mem h, read_of_not_mem h]
    · rw [if_neg hk, List.foldlM_cons, List.foldlM_cons]
      exact congrArg _ (funext ih)

theorem predicateOf_insert (h : name ∉ Controls.keys) (value : Value) (fields : Fields) :
    predicateOf (Entries.insert name value fields) = Entries.insert name value (predicateOf fields) :=
  (Entries.filter_insert (fun key => !Controls.keys.contains key) name value fields).trans (if_pos (by simp [h]))

theorem predicateOf_insert_control (h : name ∈ Controls.keys) (value : Value) (fields : Fields) :
    predicateOf (Entries.insert name value fields) = predicateOf fields :=
  (Entries.filter_insert (fun key => !Controls.keys.contains key) name value fields).trans (if_neg (by simp [h]))

theorem ofFields_insert {fields : Fields} {q : Query} (h : name ∉ Controls.keys) (value : Value)
    (hq : ofFields fields none = .ok q) :
    ofFields (Entries.insert name value fields) none = .ok ⟨q.controls, Entries.insert name value q.predicate⟩ := by
  obtain ⟨controls, hread, rfl⟩ := exists_controls hq
  rw [ofFields, foldlM_read_insert h, predicateOf_insert h, hread]
  rfl

theorem predicate_ofFields {fields : Fields} {policy : Option Policy} {q : Query}
    (hq : ofFields fields policy = .ok q) : q.predicate = predicateOf fields := by
  obtain ⟨_, _, rfl⟩ := exists_controls hq
  rfl

theorem distinct_predicateOf {fields : Fields} (hd : Entries.Distinct fields) : Entries.Distinct (predicateOf fields) :=
  List.Nodup.sublist (List.Sublist.map Prod.fst List.filter_sublist) hd

theorem distinct_predicate {fields : Fields} {policy : Option Policy} {q : Query} (hd : Entries.Distinct fields)
    (hq : ofFields fields policy = .ok q) : Entries.Distinct q.predicate := by
  rw [predicate_ofFields hq]
  exact distinct_predicateOf hd

end Query

namespace Predicate

/-- A predicate without what it asks of one field. -/
def without (name : String) (p : Predicate) : Predicate :=
  p.filter fun entry => entry.1 ≠ name

variable {name : String} {value : Value} {p : Predicate}

theorem ne_orKey (hname : isReserved name = false) : name ≠ orKey := by
  rintro rfl
  revert hname
  decide

theorem entryWellFormed_plain {depth : Nat} (hname : isReserved name = false) (hvalue : value.fields? = none) :
    EntryWellFormed depth name value := by
  rw [EntryWellFormed.eq_def, if_neg (ne_orKey hname)]
  refine ⟨hname, ?_⟩
  cases value with
  | object fields => cases hvalue
  | _ => trivial

theorem entrySatisfied_plain {row : Record} (hname : isReserved name = false) (hvalue : value.fields? = none) :
    EntrySatisfied row name value ↔ (row.cell name).Equals value := by
  rw [EntrySatisfied.eq_def, if_neg (ne_orKey hname)]
  cases value with
  | object fields => cases hvalue
  | _ => rfl

theorem wellFormed_without (name : String) (h : WellFormed 0 p) : WellFormed 0 (p.without name) := by
  rw [wellFormed_iff] at h ⊢
  exact fun entry hm => h entry (List.mem_filter.mp hm).1

theorem wellFormed_insert (hd : Entries.Distinct p) (hname : isReserved name = false) (hvalue : value.fields? = none)
    (h : WellFormed 0 p) : WellFormed 0 (Entries.insert name value p) := by
  rw [wellFormed_iff] at h ⊢
  intro entry hm
  rcases (Entries.mem_insert hd entry).mp hm with rfl | ⟨hm, _⟩
  · exact entryWellFormed_plain hname hvalue
  · exact h entry hm

theorem satisfied_insert {row : Record} (hd : Entries.Distinct p) (hname : isReserved name = false)
    (hvalue : value.fields? = none) :
    Satisfied row (Entries.insert name value p) ↔ (row.cell name).Equals value ∧ Satisfied row (p.without name) := by
  rw [satisfied_iff, satisfied_iff]
  constructor
  · intro h
    constructor
    · exact (entrySatisfied_plain hname hvalue).mp (h (name, value) ((Entries.mem_insert hd _).mpr (.inl rfl)))
    · intro entry hm
      obtain ⟨hm, hne⟩ := List.mem_filter.mp hm
      exact h entry ((Entries.mem_insert hd entry).mpr (.inr ⟨hm, by simpa using hne⟩))
  · rintro ⟨heq, h⟩ entry hm
    rcases (Entries.mem_insert hd entry).mp hm with rfl | ⟨hm, hne⟩
    · exact (entrySatisfied_plain hname hvalue).mpr heq
    · exact h entry (List.mem_filter.mpr ⟨hm, by simpa using hne⟩)

theorem without_eq_self (h : p.lookup name = none) : p.without name = p := by
  rw [without, List.filter_eq_self]
  intro entry hm
  have hne := List.lookup_eq_none_iff.mp h entry hm
  rw [bne_iff_ne] at hne
  simpa using hne.symm

/-- A reserved name with a plain value makes no sense in a predicate. -/
theorem not_wellFormed_insert (hd : Entries.Distinct p) (hname : isReserved name = true)
    (hvalue : ∀ items, value ≠ .array items) : ¬ WellFormed 0 (Entries.insert name value p) := by
  intro h
  have hentry := (wellFormed_iff _ _).mp h (name, value) ((Entries.mem_insert hd _).mpr (.inl rfl))
  rw [EntryWellFormed.eq_def] at hentry
  split at hentry
  · cases value with
    | array items => exact hvalue items rfl
    | _ => exact hentry
  · rw [hname] at hentry
    exact Bool.noConfusion hentry.1

theorem holds_iff_satisfied {clause : Clause} (hc : Clause.compile p = .ok clause) (row : Record) :
    clause.holds row = true ↔ Satisfied row p := by
  obtain ⟨hw, rfl⟩ := Clause.compile_eq_ok_iff.mp hc
  rw [Clause.holds, holdsAll_clauses_iff p hw]

/-- The clause of a predicate with a field put in: the field equals the value, and the rest holds as before. -/
theorem compile_insert {clause : Clause} (hd : Entries.Distinct p) (hname : isReserved name = false)
    (hvalue : value.fields? = none) (hc : Clause.compile p = .ok clause) :
    ∃ found rest, Clause.compile (Entries.insert name value p) = .ok found ∧
      Clause.compile (p.without name) = .ok rest ∧
      ∀ row : Record, found.holds row = true ↔ (row.cell name).Equals value ∧ rest.holds row = true := by
  obtain ⟨hw, _⟩ := Clause.compile_eq_ok_iff.mp hc
  have hwi := wellFormed_insert hd hname hvalue hw
  have hwr := wellFormed_without name hw
  have hfound := Clause.compile_eq_ok_iff.mpr ⟨hwi, rfl⟩
  have hrest := Clause.compile_eq_ok_iff.mpr ⟨hwr, rfl⟩
  refine ⟨_, _, hfound, hrest, ?_⟩
  intro row
  rw [holds_iff_satisfied hfound, holds_iff_satisfied hrest, satisfied_insert hd hname hvalue]

end Predicate

end RowStore
