import RowStore.Proofs.Number.Numeral
import RowStore.Value.Order

/-!
# Integers as doubles and as text

An integer of at most 53 bits is a double of its own, and the text of an integer of 64 bits reads as the double of that
integer.
-/

namespace RowStore

set_option autoImplicit false

namespace Binary64

/-- The greatest magnitude up to which every integer is a double. -/
def exactBound : Nat := Nat.pow 2 53

theorem roundTo_of_dvd {step num : Nat} (hstep : 0 < step) (h : step ∣ num) : roundTo step num 1 = num := by
  have hrest : num % (1 * step) = 0 := by rw [Nat.one_mul]; exact Nat.mod_eq_zero_of_dvd h
  have hcell : 2 * (num % (1 * step)) < 1 * step := by omega
  rw [roundTo, if_pos (.inl hcell), Nat.one_mul]
  exact Nat.div_mul_cancel h

theorem roundTo_le {step num : Nat} (hstep : 0 < step) (h : step ≤ num) : roundTo step num 1 ≤ 2 * num := by
  have hquotient : num / step * step ≤ num := Nat.div_mul_le_self num step
  rw [roundTo]
  simp only [Nat.one_mul]
  split
  · omega
  · rw [Nat.add_mul, Nat.one_mul]
    omega

theorem spacing_pos (n : Nat) : 0 < spacing n :=
  Nat.two_pow_pos _

theorem spacing_le {n : Nat} (h : n ≠ 0) : spacing n ≤ n := by
  have hlog : n.log2 - 52 ≤ n.log2 := Nat.sub_le _ _
  exact Nat.le_trans (Nat.pow_le_pow_right (by decide) hlog) ((Nat.le_log2 h).mp (Nat.le_refl _))

theorem round_integer_le (a : Nat) : round a 1 ≤ 2 * a := by
  rw [round, Nat.div_one]
  by_cases ha : a = 0
  · subst ha
    rw [roundTo_of_dvd (spacing_pos 0) (Nat.dvd_zero _)]
  · exact roundTo_le (spacing_pos a) (spacing_le ha)

/-- The exponent of the unit as a variable, so that the power is not worked out. -/
theorem unit_eq_pow : ∃ k, k = 1074 ∧ unit = Nat.pow 2 k := by
  refine ⟨1074, rfl, ?_⟩
  delta unit
  generalize 1074 = k
  rfl

theorem bound_eq_pow : ∃ k, k = 2098 ∧ bound = Nat.pow 2 k := by
  refine ⟨2098, rfl, ?_⟩
  delta bound
  generalize 2098 = k
  rfl

theorem unit_pos : 0 < unit := by
  obtain ⟨k, _, hunit⟩ := unit_eq_pow
  rw [hunit]
  exact Nat.two_pow_pos k

theorem spacing_dvd_unit {a : Nat} (h : a < exactBound) : spacing (a * unit) ∣ unit := by
  obtain ⟨k, hk, hunit⟩ := unit_eq_pow
  rw [hunit, Nat.pow_eq]
  apply Nat.pow_dvd_pow 2
  by_cases ha : a = 0
  · simp [ha]
  · have hne : a * 2 ^ k ≠ 0 := Nat.mul_ne_zero ha (Nat.ne_of_gt (Nat.two_pow_pos k))
    have hlt : a * 2 ^ k < 2 ^ (53 + k) := by
      rw [Nat.pow_add]
      exact Nat.mul_lt_mul_of_pos_right h (Nat.two_pow_pos k)
    have hlog := (Nat.log2_lt hne).mpr hlt
    omega

theorem round_exact {a : Nat} (h : a ≤ exactBound) : round (a * unit) 1 = a * unit := by
  rw [round, Nat.div_one]
  apply roundTo_of_dvd (spacing_pos _)
  rcases Nat.lt_or_eq_of_le h with hlt | rfl
  · exact Nat.dvd_mul_left_of_dvd (spacing_dvd_unit hlt) a
  · obtain ⟨k, hk, hunit⟩ := unit_eq_pow
    rw [hunit, exactBound, Nat.pow_eq, Nat.pow_eq, ← Nat.pow_add, spacing, Nat.log2_two_pow]
    exact Nat.pow_dvd_pow 2 (Nat.sub_le _ _)

theorem ofInt_of_le {n : Int} (h : n.natAbs ≤ exactBound) : ofInt n = ⟨n < 0, n.natAbs * unit⟩ := by
  rw [ofInt, round_exact h]

theorem signedTicks_ofInt {n : Int} (h : n.natAbs ≤ exactBound) : (ofInt n).signedTicks = n * unit := by
  rw [ofInt_of_le h, signedTicks]
  by_cases hn : n < 0
  · have hcast : ((n.natAbs : Nat) : Int) = -n := by omega
    simp only [hn, decide_true, if_true, Int.natCast_mul, hcast, Int.neg_mul, Int.neg_neg]
  · have hcast : ((n.natAbs : Nat) : Int) = n := by omega
    simp only [hn, decide_false, Bool.false_eq_true, if_false, Int.natCast_mul, hcast]

theorem same_ofInt_iff {m n : Int} (hm : m.natAbs ≤ exactBound) (hn : n.natAbs ≤ exactBound) :
    (ofInt m).same (ofInt n) = true ↔ m = n := by
  have hunit : (unit : Int) ≠ 0 := by
    exact_mod_cast Nat.ne_of_gt unit_pos
  rw [same, beq_iff_eq, signedTicks_ofInt hm, signedTicks_ofInt hn, Int.mul_eq_mul_right_iff hunit]

theorem decimalLength_le {a : Nat} (h : a < Numeral.wordBound) : decimalLength a ≤ 20 := by
  rw [decimalLength, Nat.length_toDigits_le_iff (by decide) (by decide)]
  exact Nat.lt_trans h (by decide)

theorem word_lt_bound {a : Nat} (h : a < Numeral.wordBound) : 2 * (a * unit) < bound := by
  obtain ⟨k, hk, hunit⟩ := unit_eq_pow
  obtain ⟨l, hl, hbound⟩ := bound_eq_pow
  have hword : 2 * a < 2 ^ 65 := by
    unfold Numeral.wordBound at h
    omega
  rw [hunit, hbound, Nat.pow_eq, Nat.pow_eq, ← Nat.mul_assoc]
  calc 2 * a * 2 ^ k < 2 ^ 65 * 2 ^ k := Nat.mul_lt_mul_of_pos_right hword (Nat.two_pow_pos k)
    _ = 2 ^ (65 + k) := (Nat.pow_add 2 65 k).symm
    _ ≤ 2 ^ l := Nat.pow_le_pow_right (by decide) (by omega)

/-- A decimal numeral for an integer of a word is its double. -/
theorem ofDecimal?_integer {n : Int} (h : n.natAbs < Numeral.wordBound) :
    ofDecimal? (n < 0) n.natAbs 0 = some (ofInt n) := by
  have hlength := decimalLength_le h
  rw [ofDecimal?, Int.add_zero]
  by_cases hn : n.natAbs = 0
  · rw [if_pos (.inl hn), ofInt, hn, Nat.zero_mul, round, roundTo_of_dvd (spacing_pos _) (Nat.dvd_zero _)]
  · have htop : ¬ (n.natAbs = 0 ∨ (decimalLength n.natAbs : Int) < -330) := by omega
    have htop' : ¬ (decimalLength n.natAbs : Int) > 310 := by omega
    have hticks : round (n.natAbs * unit) 1 < bound := by
      have hle := round_integer_le (n.natAbs * unit)
      have hlt := word_lt_bound h
      omega
    rw [if_neg htop, if_neg htop', if_neg (Int.lt_irrefl 0), Int.natAbs_zero, ofTicks?]
    have hpow : n.natAbs * Nat.pow 10 0 * unit = n.natAbs * unit := by
      rw [Nat.pow_eq, Nat.pow_zero, Nat.mul_one]
    rw [hpow]
    simp only [if_pos hticks, ofInt]

end Binary64

namespace Numeral

theorem decimal?_integerText (n : Int) :
    decimal? (Number.integerText n) = some ⟨n < 0, n.natAbs, 0⟩ := by
  have hwritten : Number.integerText n = signed (n < 0) (Nat.toDigits 10 n.natAbs ++ []) := by
    simp [Number.integerText, signed]
  rw [hwritten, decimal?_whole (n < 0) [] Nat.toDigits_ne_nil (fun _ => isDigit_toDigits) (by simp) rfl,
    ofDigits_toDigits]

end Numeral

theorem Binary64.ofText?_integerText {n : Int} (h : n.natAbs < Numeral.wordBound) :
    ofText? (Number.integerText n) = some (ofInt n) := by
  rw [ofText?, Numeral.decimal?_integerText]
  exact ofDecimal?_integer h

namespace Value

theorem numeric?_integerText {n : Int} (h : n.natAbs < Numeral.wordBound) :
    (string (String.ofList (Number.integerText n))).numeric? = some (Binary64.ofInt n) := by
  rw [numeric?, String.toList_ofList, Numeral.trim_of_decimal? (Numeral.decimal?_integerText n), Binary64.ofText?_integerText h]

theorem text_ofInt (n : Int) : (ofInt n).text = String.ofList (Number.integerText n) := rfl

end Value

end RowStore
