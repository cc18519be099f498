import RowStore.Proofs.Number.Rounding
import RowStore.Proofs.Value.Preorder
import RowStore.Proofs.Value.Same

/-!
# Integers compare as doubles

Integers are rounded to doubles before they are compared. This never turns their order round, but integers of more than 53
bits that lie close together may come to be the same double.
-/

namespace RowStore

set_option autoImplicit false

namespace Binary64

/-- Rounding tells two integers apart: both are doubles, or one of them is below the first integer that is none, or they
are further apart than doubles of their size. -/
def Separates (m n : Int) : Prop :=
  (spacing m.natAbs ∣ m.natAbs ∧ spacing n.natAbs ∣ n.natAbs) ∨
    m.natAbs < exactBound ∨ n.natAbs < exactBound ∨ spacing (max m.natAbs n.natAbs) < (m - n).natAbs

instance (m n : Int) : Decidable (Separates m n) := by
  unfold Separates
  infer_instance

theorem Separates.symm {m n : Int} (h : Separates m n) : Separates n m := by
  have habs : (n - m).natAbs = (m - n).natAbs := by omega
  unfold Separates at h ⊢
  rw [Nat.max_comm, habs]
  rcases h with hboth | hm | hn | hfar
  · exact .inl hboth.symm
  · exact .inr (.inr (.inl hm))
  · exact .inr (.inl hn)
  · exact .inr (.inr (.inr hfar))

section

variable {a b : Nat} {m n : Int}

theorem spacing_mul_unit (h : exactBound ≤ a) : spacing (a * unit) = spacing a * unit := by
  obtain ⟨k, _, hunit⟩ := unit_eq_pow
  have hne : a ≠ 0 := by
    rintro rfl
    exact absurd h (by decide)
  have hlog : 52 ≤ a.log2 := (Nat.le_log2 hne).mpr (Nat.le_trans (by decide) h)
  have hlower : 2 ^ (a.log2 + k) ≤ a * 2 ^ k := by
    rw [Nat.pow_add]
    exact Nat.mul_le_mul_right _ (Nat.log2_self_le hne)
  have hupper : a * 2 ^ k < 2 ^ (a.log2 + k + 1) := by
    rw [Nat.add_right_comm, Nat.pow_add]
    exact Nat.mul_lt_mul_of_pos_right Nat.lt_log2_self (Nat.two_pow_pos k)
  rw [hunit, Nat.pow_eq, spacing_of_bounds hlower hupper, Nat.sub_add_comm hlog, Nat.pow_add]
  rfl

theorem round_of_spacing_dvd (h : spacing a ∣ a) : round (a * unit) 1 = a * unit := by
  by_cases hsmall : a ≤ exactBound
  · exact round_exact hsmall
  · rw [round, Nat.div_one]
    apply roundTo_of_dvd (spacing_pos _)
    rw [spacing_mul_unit (Nat.le_of_not_le hsmall)]
    exact Nat.mul_dvd_mul_right h unit

/-- Integers that are rounded to one double have more than 53 bits, are not both doubles, and are no further apart than
doubles of their size. -/
theorem close_of_round_eq (hlt : a < b) (h : round (a * unit) 1 = round (b * unit) 1) :
    exactBound ≤ a ∧ b ≤ a + spacing b ∧ ¬ (spacing a ∣ a ∧ spacing b ∣ b) := by
  have hlarge : exactBound ≤ a := by
    by_contra hsmall
    have ha : a * unit < exactBound * unit := Nat.mul_lt_mul_of_pos_right (Nat.lt_of_not_le hsmall) unit_pos
    rw [round_exact (Nat.le_of_not_le hsmall)] at h
    by_cases hb : b ≤ exactBound
    · rw [round_exact hb] at h
      exact Nat.ne_of_lt hlt (Nat.eq_of_mul_eq_mul_right unit_pos h)
    · have hmono := round_mono (Nat.mul_le_mul_right unit (Nat.le_of_not_le hb))
      rw [round_exact (Nat.le_refl _), ← h] at hmono
      exact Nat.not_lt.mpr hmono ha
  refine ⟨hlarge, ?_, ?_⟩
  · have hspacing := Nat.le_of_dvd (spacing_pos b) (spacing_dvd_spacing (Nat.le_of_lt hlt))
    have hup := (roundTo_near (spacing_pos (b * unit)) (b * unit)).1
    have hdown := (roundTo_near (spacing_pos (a * unit)) (a * unit)).2
    have hbelow := spacing_mul_unit hlarge
    have habove := spacing_mul_unit (Nat.le_trans hlarge (Nat.le_of_lt hlt))
    rw [round, round, Nat.div_one, Nat.div_one] at h
    apply Nat.le_of_mul_le_mul_right _ unit_pos
    have hscaled := Nat.mul_le_mul_right unit hspacing
    rw [Nat.add_mul]
    omega
  · rintro ⟨hda, hdb⟩
    rw [round_of_spacing_dvd hda, round_of_spacing_dvd hdb] at h
    exact Nat.ne_of_lt hlt (Nat.eq_of_mul_eq_mul_right unit_pos h)

theorem signedTicks_of_nonneg (h : 0 ≤ n) : (ofInt n).signedTicks = round (n.natAbs * unit) 1 := by
  simp [signedTicks, ofInt, Int.not_lt.mpr h]

theorem signedTicks_of_neg (h : n < 0) : (ofInt n).signedTicks = -(round (n.natAbs * unit) 1 : Int) := by
  simp [signedTicks, ofInt, h]

theorem natAbs_signedTicks (n : Int) : (ofInt n).signedTicks.natAbs = round (n.natAbs * unit) 1 := by
  by_cases hn : n < 0
  · rw [signedTicks_of_neg hn, Int.natAbs_neg, Int.natAbs_natCast]
  · rw [signedTicks_of_nonneg (Int.not_lt.mp hn), Int.natAbs_natCast]

theorem signedTicks_neg_iff (n : Int) : (ofInt n).signedTicks < 0 ↔ n < 0 := by
  constructor
  · intro hneg
    by_contra hn
    rw [signedTicks_of_nonneg (Int.not_lt.mp hn)] at hneg
    exact Int.not_lt.mpr (Int.natCast_nonneg _) hneg
  · intro hn
    have hone : 1 * unit ≤ n.natAbs * unit := Nat.mul_le_mul_right unit (by omega)
    have hmono := round_mono hone
    rw [round_exact (by decide), Nat.one_mul] at hmono
    have hpos := Nat.lt_of_lt_of_le unit_pos hmono
    rw [signedTicks_of_neg hn]
    omega

theorem signedTicks_mono (h : m ≤ n) : (ofInt m).signedTicks ≤ (ofInt n).signedTicks := by
  by_cases hm : m < 0
  · by_cases hn : n < 0
    · have hmono := round_mono (Nat.mul_le_mul_right unit (by omega : n.natAbs ≤ m.natAbs))
      rw [signedTicks_of_neg hm, signedTicks_of_neg hn]
      omega
    · have hneg := (signedTicks_neg_iff m).mpr hm
      have hnonneg := (signedTicks_neg_iff n).not.mpr hn
      omega
  · have hmono := round_mono (Nat.mul_le_mul_right unit (by omega : m.natAbs ≤ n.natAbs))
    rw [signedTicks_of_nonneg (by omega), signedTicks_of_nonneg (by omega)]
    exact_mod_cast hmono

theorem not_separates_of_natAbs_lt (hsign : m < 0 ↔ n < 0) (hlt : m.natAbs < n.natAbs)
    (h : round (m.natAbs * unit) 1 = round (n.natAbs * unit) 1) : ¬ Separates m n := by
  obtain ⟨hlarge, hnear, hdoubles⟩ := close_of_round_eq hlt h
  unfold Separates
  rw [Nat.max_eq_right (Nat.le_of_lt hlt)]
  rintro (hboth | hm | hn | hfar)
  · exact hdoubles hboth
  · omega
  · omega
  · omega

theorem eq_of_signedTicks_eq (hseparates : Separates m n) (h : (ofInt m).signedTicks = (ofInt n).signedTicks) :
    m = n := by
  have hsign : m < 0 ↔ n < 0 := by
    rw [← signedTicks_neg_iff, h, signedTicks_neg_iff]
  have hround : round (m.natAbs * unit) 1 = round (n.natAbs * unit) 1 := by
    rw [← natAbs_signedTicks, h, natAbs_signedTicks]
  rcases Nat.lt_trichotomy m.natAbs n.natAbs with hlt | heq | hgt
  · exact absurd hseparates (not_separates_of_natAbs_lt hsign hlt hround)
  · omega
  · exact absurd hseparates.symm (not_separates_of_natAbs_lt hsign.symm hgt hround.symm)

end

end Binary64

namespace Value

theorem order_ofInt (m n : Int) :
    (ofInt m).order (ofInt n) = compare (Binary64.ofInt m).signedTicks (Binary64.ofInt n).signedTicks := rfl

theorem same_ofInt (m n : Int) : (ofInt m).same (ofInt n) = true ↔
    (Binary64.ofInt m).signedTicks = (Binary64.ofInt n).signedTicks := by
  rw [same_of_numeric (numeric?_ofInt m) (numeric?_ofInt n), Binary64.same, beq_iff_eq]

theorem same_ofInt_iff_order (m n : Int) : (ofInt m).same (ofInt n) = true ↔ (ofInt m).order (ofInt n) = .eq := by
  rw [same_ofInt, order_ofInt, Std.compare_eq_iff_eq]

theorem lt_of_order_ofInt {m n : Int} (h : (ofInt m).order (ofInt n) = .lt) : m < n := by
  by_contra hle
  have hmono := Binary64.signedTicks_mono (Int.not_lt.mp hle)
  rw [order_ofInt, Std.compare_eq_lt] at h
  exact Int.not_le.mpr h hmono

theorem same_ofInt_iff_of_separates {m n : Int} (h : m = n ∨ Binary64.Separates m n) :
    (ofInt m).same (ofInt n) = true ↔ m = n := by
  constructor
  · intro hsame
    exact h.elim id fun hseparates => Binary64.eq_of_signedTicks_eq hseparates ((same_ofInt m n).mp hsame)
  · rintro rfl
    exact same_self _

theorem order_ofInt_of_separates {m n : Int} (h : m = n ∨ Binary64.Separates m n) :
    (ofInt m).order (ofInt n) = compare m n := by
  have hsame := same_ofInt_iff_of_separates h
  rw [same_ofInt_iff_order] at hsame
  cases horder : (ofInt m).order (ofInt n) with
  | lt => exact (compare_lt_iff_lt.mpr (lt_of_order_ofInt horder)).symm
  | eq => exact (compare_eq_iff_eq.mpr (hsame.mp horder)).symm
  | gt =>
    have hswap : (ofInt n).order (ofInt m) = .lt := by
      rw [order_swap, horder]
      rfl
    exact (compare_gt_iff_gt.mpr (lt_of_order_ofInt hswap)).symm

end Value

end RowStore
