import Mathlib.Algebra.Group.Nat.Defs
import RowStore.Proofs.Number.Integer

/-!
# Decimals as they are written

The text of a magnitude is made from digits and the exponent of the first one. Whether the digits stand with all their
places or with an exponent, what is written reads as a decimal of the value that the digits have.
-/

namespace RowStore

set_option autoImplicit false

/-- The value of a decimal is `coefficient * 10 ^ exponent`. -/
def Decimal.Equals (d : Decimal) (coefficient : Nat) (exponent : Int) : Prop :=
  ∃ more fewer : Nat, d.coefficient * 10 ^ fewer = coefficient * 10 ^ more ∧ d.exponent + more = exponent + fewer

/-- Zeros at the end of the coefficient count for the exponent. -/
theorem Decimal.equals_zeros_iff {d : Decimal} {coefficient : Nat} {exponent : Int} (zeros : Nat) :
    d.Equals (coefficient * 10 ^ zeros) exponent ↔ d.Equals coefficient (exponent + zeros) := by
  constructor
  · rintro ⟨more, fewer, hvalue, hexponent⟩
    refine ⟨zeros + more, fewer, ?_, by omega⟩
    rw [hvalue, Nat.pow_add, Nat.mul_assoc]
  · rintro ⟨more, fewer, hvalue, hexponent⟩
    refine ⟨more, fewer + zeros, ?_, by omega⟩
    rw [Nat.pow_add, ← Nat.mul_assoc, hvalue, Nat.mul_right_comm]

namespace Numeral

theorem ofDigits_zeros_append (n : Nat) (digits : List Char) :
    ofDigits (List.replicate n '0' ++ digits) = ofDigits digits := by
  rw [ofDigits, ← Nat.ofDigitChars, Nat.ofDigitChars_append, Nat.ofDigitChars_replicate_zero, Nat.mul_zero]
  rfl

theorem ofDigits_append_zeros (digits : List Char) (n : Nat) :
    ofDigits (digits ++ List.replicate n '0') = ofDigits digits * 10 ^ n := by
  rw [ofDigits, ← Nat.ofDigitChars, Nat.ofDigitChars_append, Nat.ofDigitChars_replicate_zero, Nat.mul_comm]
  rfl

end Numeral

namespace Number

open Numeral

variable {digits : List Char}

theorem isDigit_replicate {n : Nat} : ∀ c ∈ List.replicate n '0', c.isDigit = true := by
  intro c hc
  rw [List.eq_of_mem_replicate hc]
  rfl

/-- Digits around a point read as the value of all of them, over a power of ten for each one after the point. -/
theorem exists_decimal?_point (negative : Bool) {whole fraction : List Char} (hne : whole ≠ [])
    (hdigits : ∀ c ∈ whole ++ fraction, c.isDigit = true) :
    ∃ d, decimal? (signed negative (whole ++ '.' :: fraction)) = some d ∧ d.negative = negative ∧
      d.Equals (ofDigits (whole ++ fraction)) (-fraction.length) := by
  have hwhole : ∀ c ∈ whole, c.isDigit = true := fun c hc => hdigits c (List.mem_append_left _ hc)
  have hfraction : ∀ c ∈ fraction, c.isDigit = true := fun c hc => hdigits c (List.mem_append_right _ hc)
  have hread := decimal?_point negative [] hne hwhole hfraction (by simp) rfl
  rw [List.append_nil] at hread
  refine ⟨_, hread, rfl, 0, 0, rfl, ?_⟩
  dsimp only
  omega

theorem positional_of_length_le (mark : Char) {leading : Int} (hleading : 0 ≤ leading)
    (h : digits.length ≤ leading.toNat + 1) :
    positional mark digits leading
      = (digits ++ List.replicate (leading.toNat + 1 - digits.length) '0') ++ mark :: ['0'] := by
  rw [positional, if_neg (Int.not_lt.mpr hleading)]
  simp only [List.take_of_length_le h, List.drop_eq_nil_of_le h, if_true]

theorem positional_of_lt_length (mark : Char) {leading : Int} (hleading : 0 ≤ leading)
    (h : leading.toNat + 1 < digits.length) :
    positional mark digits leading
      = digits.take (leading.toNat + 1) ++ mark :: digits.drop (leading.toNat + 1) := by
  have hrest : digits.drop (leading.toNat + 1) ≠ [] := fun hnil => Nat.not_le_of_lt h (List.drop_eq_nil_iff.mp hnil)
  have hlength : (digits.take (leading.toNat + 1)).length = leading.toNat + 1 := List.length_take_of_le (Nat.le_of_lt h)
  rw [positional, if_neg (Int.not_lt.mpr hleading)]
  simp only [if_neg hrest, hlength, Nat.sub_self, List.replicate_zero, List.append_nil]

/-- Digits with all their places read as the value that they have. -/
theorem decimal?_positional (hdigits : ∀ c ∈ digits, c.isDigit = true) (negative : Bool) (leading : Int) :
    ∃ d, decimal? (signed negative (positional '.' digits leading)) = some d ∧ d.negative = negative ∧
      d.Equals (ofDigits digits) (leading + 1 - digits.length) := by
  by_cases hneg : leading < 0
  · have hzeros : ['0'] ++ (List.replicate (leading.natAbs - 1) '0' ++ digits)
        = List.replicate (leading.natAbs - 1 + 1) '0' ++ digits := by
      rw [List.replicate_succ]
      rfl
    obtain ⟨d, hd, hnegative, hequals⟩ := exists_decimal?_point negative (List.cons_ne_nil '0' [])
      (hzeros ▸ List.forall_mem_append.mpr ⟨isDigit_replicate, hdigits⟩)
    rw [hzeros, ofDigits_zeros_append] at hequals
    rw [positional, if_pos hneg]
    refine ⟨d, hd, hnegative, ?_⟩
    convert hequals using 1
    rw [List.length_append, List.length_replicate]
    omega
  · have hleading : 0 ≤ leading := Int.not_lt.mp hneg
    by_cases hlength : digits.length ≤ leading.toNat + 1
    · have hzeros : (digits ++ List.replicate (leading.toNat + 1 - digits.length) '0') ++ ['0']
          = digits ++ List.replicate (leading.toNat + 1 - digits.length + 1) '0' := by
        rw [List.append_assoc, ← List.replicate_succ']
      have hne : digits ++ List.replicate (leading.toNat + 1 - digits.length) '0' ≠ [] := by
        intro hnil
        have hnone := congrArg List.length hnil
        rw [List.length_append, List.length_replicate, List.length_nil] at hnone
        omega
      obtain ⟨d, hd, hnegative, hequals⟩ := exists_decimal?_point negative hne
        (hzeros ▸ List.forall_mem_append.mpr ⟨hdigits, isDigit_replicate⟩)
      rw [hzeros, ofDigits_append_zeros, Decimal.equals_zeros_iff] at hequals
      rw [positional_of_length_le '.' hleading hlength]
      refine ⟨d, hd, hnegative, ?_⟩
      convert hequals using 1
      rw [List.length_singleton]
      omega
    · have hlt : leading.toNat + 1 < digits.length := Nat.lt_of_not_le hlength
      have hne : digits.take (leading.toNat + 1) ≠ [] := by
        intro hnil
        have hnone := congrArg List.length hnil
        rw [List.length_take_of_le (Nat.le_of_lt hlt), List.length_nil] at hnone
        omega
      obtain ⟨d, hd, hnegative, hequals⟩ := exists_decimal?_point negative hne
        ((List.take_append_drop (leading.toNat + 1) digits).symm ▸ hdigits)
      rw [List.take_append_drop] at hequals
      rw [positional_of_lt_length '.' hleading hlt]
      refine ⟨d, hd, hnegative, ?_⟩
      convert hequals using 1
      rw [List.length_drop]
      omega

theorem decimal?_scientific (hne : digits ≠ []) (hdigits : ∀ c ∈ digits, c.isDigit = true) (negative : Bool)
    (leading : Int) :
    ∃ d, decimal? (signed negative (scientific layout digits leading)) = some d ∧ d.negative = negative ∧
      d.Equals (ofDigits digits) (leading + 1 - digits.length) := by
  obtain ⟨first, more, rfl⟩ := List.exists_cons_of_ne_nil hne
  have hfirst : ∀ c ∈ [first], c.isDigit = true := by
    intro c hc
    rw [List.mem_singleton.mp hc]
    exact hdigits first List.mem_cons_self
  have hmore : ∀ c ∈ more, c.isDigit = true := fun c hc => hdigits c (List.mem_cons_of_mem first hc)
  have hexponent := exponent?_written leading
  unfold scientific
  by_cases hshort : more = []
  · subst hshort
    have hread := decimal?_whole negative _ (List.cons_ne_nil first []) hfirst (by simp) hexponent
    refine ⟨_, hread, rfl, 0, 0, rfl, ?_⟩
    simp only [List.length_cons, List.length_nil]
    omega
  · have hlength : ¬ (first :: more).length ≤ 1 := by
      have hpos := List.length_pos_iff.mpr hshort
      rw [List.length_cons]
      omega
    have hread := decimal?_point negative _ (List.cons_ne_nil first []) hfirst hmore (by simp) hexponent
    rw [if_neg hlength]
    refine ⟨_, hread, rfl, 0, 0, rfl, ?_⟩
    simp only [List.length_cons]
    omega

/-- A row of digits without the zeros at its end. -/
theorem exists_shown (digits : List Char) :
    ∃ n, digits = (digits.reverse.dropWhile (· = '0')).reverse ++ List.replicate n '0' := by
  refine ⟨(digits.reverse.takeWhile (· = '0')).length, ?_⟩
  have hzeros : digits.reverse.takeWhile (· = '0')
      = List.replicate (digits.reverse.takeWhile (· = '0')).length '0' := by
    apply List.eq_replicate_of_mem
    intro c hc
    have hzero := List.mem_takeWhile_imp hc
    simpa using hzero
  rw [← List.reverse_replicate, ← hzeros, ← List.reverse_append, List.takeWhile_append_dropWhile, List.reverse_reverse]

/-- What is written for a magnitude reads as its shortest decimal. -/
theorem decimal?_magnitudeText (negative : Bool) {ticks coefficient : Nat} {exponent : Int} (hne : ticks ≠ 0)
    (hcoefficient : coefficient ≠ 0) (h : Binary64.shortest ticks = (coefficient, exponent)) :
    ∃ d, decimal? (signed negative (magnitudeText layout ticks)) = some d ∧ d.negative = negative ∧
      d.Equals coefficient exponent := by
  obtain ⟨n, hshown⟩ := exists_shown (Nat.toDigits 10 coefficient)
  rw [magnitudeText, if_neg hne, h]
  dsimp only
  generalize ((Nat.toDigits 10 coefficient).reverse.dropWhile (· = '0')).reverse = shown at hshown ⊢
  have hdigits : ∀ c ∈ shown, c.isDigit = true := by
    intro c hc
    have hc' : c ∈ Nat.toDigits 10 coefficient := hshown ▸ List.mem_append_left _ hc
    exact isDigit_toDigits hc'
  have hvalue : coefficient = ofDigits shown * 10 ^ n := by
    rw [← ofDigits_append_zeros, ← hshown, ofDigits_toDigits]
  have hlength := congrArg List.length hshown
  rw [List.length_append, List.length_replicate] at hlength
  have hnil : shown ≠ [] := by
    rintro rfl
    exact hcoefficient (by rw [hvalue, ofDigits_nil, Nat.zero_mul])
  have hread : ∀ {d : Decimal},
      d.Equals (ofDigits shown) (exponent + (Nat.toDigits 10 coefficient).length - 1 + 1 - shown.length) →
      d.Equals coefficient exponent := by
    intro d hd
    rw [hvalue]
    apply (Decimal.equals_zeros_iff n).mpr
    convert hd using 1
    omega
  split
  · obtain ⟨d, hd, hnegative, hequals⟩ := decimal?_positional hdigits negative
      (exponent + (Nat.toDigits 10 coefficient).length - 1)
    exact ⟨d, hd, hnegative, hread hequals⟩
  · obtain ⟨d, hd, hnegative, hequals⟩ := decimal?_scientific hnil hdigits negative
      (exponent + (Nat.toDigits 10 coefficient).length - 1)
    exact ⟨d, hd, hnegative, hread hequals⟩

end Number

end RowStore
