import Mathlib.Data.List.Chain
import RowStore.Text.Fold

/-!
# Case folding as a relation

The ranges of the folding table do not overlap, and they lead to characters only. So what is found in the table, and in the
shorter way for the first characters, is all that the table says.
-/

namespace RowStore.Text

set_option autoImplicit false

/-- The code points of a range of the table: the first of it, and every so many up to the last. -/
def InRange (range : Nat × Nat × Nat × Nat) (code : Nat) : Prop :=
  range.1 ≤ code ∧ code ≤ range.2.1 ∧ (code - range.1) % range.2.2.1 = 0

instance (range : Nat × Nat × Nat × Nat) (code : Nat) : Decidable (InRange range code) :=
  inferInstanceAs (Decidable (_ ∧ _))

/-- Simple case folding: the members of a range lead to other characters in step, all other characters to themselves. -/
def Folds (c d : Char) : Prop :=
  (∃ range ∈ foldRanges, InRange range c.toNat ∧ d.toNat = range.2.2.2 + (c.toNat - range.1)) ∨
    (∀ range ∈ foldRanges, ¬ InRange range c.toNat) ∧ d = c

/-- A range that comes after another one, and is not empty. -/
def After (one other : Nat × Nat × Nat × Nat) : Prop :=
  one.2.1 < other.1 ∧ other.1 ≤ other.2.1

instance : Trans After After After where
  trans h h' := ⟨Nat.lt_of_lt_of_le h.1 (Nat.le_of_lt (Nat.lt_of_le_of_lt h.2 h'.1)), h'.2⟩

instance (one other : Nat × Nat × Nat × Nat) : Decidable (After one other) :=
  inferInstanceAs (Decidable (_ ∧ _))

theorem foldRanges_ordered : foldRanges.Pairwise After := by
  apply List.isChain_iff_pairwise.mp
  decide +kernel

theorem foldRanges_ascii : ∀ range ∈ foldRanges, range = (0x41, 0x5A, 1, 0x61) ∨ 0x80 ≤ range.1 := by
  decide +kernel

theorem foldRanges_valid : ∀ range ∈ foldRanges,
    range.2.2.2 + (range.2.1 - range.1) < 0xD800 ∨
      0xDFFF < range.2.2.2 ∧ range.2.2.2 + (range.2.1 - range.1) < 0x110000 := by
  decide +kernel

theorem find?_eq_some_iff_of_pairwise {α : Type} {p : α → Bool} {l : List α} {a : α}
    (h : l.Pairwise fun one other => ¬ (p one = true ∧ p other = true)) :
    l.find? p = some a ↔ a ∈ l ∧ p a = true := by
  induction l with
  | nil => simp
  | cons first rest ih =>
    obtain ⟨hfirst, hrest⟩ := List.pairwise_cons.mp h
    rw [List.find?_cons, List.mem_cons]
    cases hp : p first with
    | true =>
      constructor
      · rintro ⟨⟩
        exact ⟨.inl rfl, hp⟩
      · rintro ⟨rfl | hm, ha⟩
        · rfl
        · exact absurd ⟨hp, ha⟩ (hfirst a hm)
    | false =>
      simp only [ih hrest]
      constructor
      · rintro ⟨hm, ha⟩
        exact ⟨.inr hm, ha⟩
      · rintro ⟨rfl | hm, ha⟩
        · rw [hp] at ha
          cases ha
        · exact ⟨hm, ha⟩

section

variable {c d : Char} {range : Nat × Nat × Nat × Nat} {code : Nat}

theorem foldCode_eq (code : Nat) : foldCode code =
    (foldRanges.find? fun range => InRange range code).elim code fun range => range.2.2.2 + (code - range.1) := by
  unfold foldCode
  split
  case h_1 first last stride target hfind =>
    have hrange : foldRanges.find? (fun range => InRange range code) = some (first, last, stride, target) := hfind
    rw [hrange]
    rfl
  case h_2 hfind =>
    have hrange : foldRanges.find? (fun range => InRange range code) = none := hfind
    rw [hrange]
    rfl

theorem foldCode_of_inRange (hm : range ∈ foldRanges) (h : InRange range code) :
    foldCode code = range.2.2.2 + (code - range.1) := by
  have hfind : foldRanges.find? (fun range => InRange range code) = some range := by
    rw [find?_eq_some_iff_of_pairwise]
    · exact ⟨hm, decide_eq_true h⟩
    · apply foldRanges_ordered.imp
      rintro one other ⟨hlt, _⟩ ⟨hone, hother⟩
      obtain ⟨_, hlast, _⟩ := of_decide_eq_true hone
      obtain ⟨hfirst, _⟩ := of_decide_eq_true hother
      omega
  rw [foldCode_eq, hfind]
  rfl

theorem foldCode_of_not_inRange (h : ∀ range ∈ foldRanges, ¬ InRange range code) : foldCode code = code := by
  have hfind : foldRanges.find? (fun range => InRange range code) = none := by
    rw [List.find?_eq_none]
    intro range hm
    simpa using h range hm
  rw [foldCode_eq, hfind]
  rfl

/-- The shorter way for the first characters leads where the table does. -/
theorem fold_eq (c : Char) : fold c = Char.ofNat (foldCode c.toNat) := by
  have hletter : ('A' ≤ c ∧ c ≤ 'Z') ↔ 0x41 ≤ c.toNat ∧ c.toNat ≤ 0x5A := Iff.rfl
  unfold fold
  split
  case isFalse => rfl
  case isTrue hascii =>
    split
    case isTrue hcapital =>
      obtain ⟨hfirst, hlast⟩ := hletter.mp hcapital
      have hrange : InRange (0x41, 0x5A, 1, 0x61) c.toNat := ⟨hfirst, hlast, Nat.mod_one _⟩
      rw [foldCode_of_inRange (by decide) hrange]
      congr 1
      dsimp only
      omega
    case isFalse hother =>
      rw [foldCode_of_not_inRange, Char.ofNat_toNat]
      intro range hm hrange
      obtain rfl | hlarge := foldRanges_ascii range hm
      · exact hother (hletter.mpr ⟨hrange.1, hrange.2.1⟩)
      · have hfirst := hrange.1
        omega

theorem toNat_ofNat_of_inRange (hm : range ∈ foldRanges) (h : InRange range code) :
    (Char.ofNat (range.2.2.2 + (code - range.1))).toNat = range.2.2.2 + (code - range.1) := by
  have hbounds := foldRanges_valid range hm
  obtain ⟨hfirst, hlast, _⟩ := h
  have hvalid : (range.2.2.2 + (code - range.1)).isValidChar := by
    unfold Nat.isValidChar
    omega
  rw [Char.ofNat, dif_pos hvalid]
  rfl

/-- What a character is folded to is what the table leads to. -/
theorem fold_eq_iff : fold c = d ↔ Folds c d := by
  rw [fold_eq, Folds]
  by_cases h : ∃ range ∈ foldRanges, InRange range c.toNat
  · obtain ⟨range, hm, hrange⟩ := h
    rw [foldCode_of_inRange hm hrange, ← Char.toNat_inj, toNat_ofNat_of_inRange hm hrange]
    constructor
    · intro hd
      exact .inl ⟨range, hm, hrange, hd.symm⟩
    · rintro (⟨other, hother, hin, hd⟩ | ⟨hnone, _⟩)
      · rw [hd, ← foldCode_of_inRange hm hrange, foldCode_of_inRange hother hin]
      · exact absurd hrange (hnone range hm)
  · have hnone : ∀ range ∈ foldRanges, ¬ InRange range c.toNat := fun range hm hrange => h ⟨range, hm, hrange⟩
    rw [foldCode_of_not_inRange hnone, Char.ofNat_toNat]
    constructor
    · rintro rfl
      exact .inr ⟨hnone, rfl⟩
    · rintro (⟨range, hm, hrange, _⟩ | ⟨_, rfl⟩)
      · exact absurd hrange (hnone range hm)
      · rfl

end

end RowStore.Text
