import RowStore.Proofs.Value.Integers

/-!
# Numbers as integers

Where an integer is asked for, a number stands for its integer part, moved into the range of 64-bit signed integers. That an
integer out of this range is first rounded to a double does not show: it is moved to the end of the range either way.
-/

namespace RowStore

set_option autoImplicit false

namespace Binary64

variable {m n : Int}

theorem signedTicks_of_spacing_dvd (h : spacing n.natAbs ∣ n.natAbs) : (ofInt n).signedTicks = n * unit := by
  by_cases hn : n < 0
  · rw [signedTicks_of_neg hn, round_of_spacing_dvd h, Int.natCast_mul, Int.ofNat_natAbs_of_nonpos (Int.le_of_lt hn),
      Int.neg_mul, Int.neg_neg]
  · have hnonneg := Int.not_lt.mp hn
    rw [signedTicks_of_nonneg hnonneg, round_of_spacing_dvd h, Int.natCast_mul, Int.natAbs_of_nonneg hnonneg]

theorem truncate_eq_of_signedTicks_eq {x : Binary64} (h : x.signedTicks = n * unit) : x.truncate = n := by
  have hunit : (unit : Int) ≠ 0 := Int.natCast_ne_zero.mpr (Nat.ne_of_gt unit_pos)
  rw [truncate, h, Int.mul_tdiv_cancel n hunit]

theorem truncate_mono (h : m ≤ n) : (ofInt m).truncate ≤ (ofInt n).truncate :=
  Int.tdiv_le_tdiv (Int.natCast_pos.mpr unit_pos) (signedTicks_mono h)

end Binary64

namespace Number

variable {x : Number} {m n : Int}

theorem clampInt64_of_mem (hlower : Numeral.leastInt64 ≤ n) (hupper : n ≤ Numeral.greatestInt64) : clampInt64 n = n := by
  rw [clampInt64, Int.min_eq_left hupper, Int.max_eq_right hlower]

theorem clampInt64_of_greatest_le (h : Numeral.greatestInt64 ≤ n) : clampInt64 n = Numeral.greatestInt64 := by
  rw [clampInt64, Int.min_eq_right h]
  decide

theorem clampInt64_of_le_least (h : n ≤ Numeral.leastInt64) : clampInt64 n = Numeral.leastInt64 := by
  have hends : Numeral.leastInt64 ≤ Numeral.greatestInt64 := by decide
  rw [clampInt64, Int.min_eq_left (Int.le_trans h hends), Int.max_eq_left h]

theorem natAbs_clampInt64_le (n : Int) : (clampInt64 n).natAbs ≤ Numeral.leastInt64.natAbs := by
  unfold clampInt64 Numeral.leastInt64 Numeral.greatestInt64
  omega

/-- A number that is an integer, in either form. -/
def IsInteger (x : Number) (n : Int) : Prop :=
  match x with
  | integer m => m = n
  | real y => y.signedTicks = n * Binary64.unit

def integerPart : Number → Int
  | integer n => n
  | real y => y.truncate

theorem IsInteger.integerPart_eq (h : x.IsInteger n) : x.integerPart = n := by
  cases x with
  | integer m => exact h
  | real y => exact Binary64.truncate_eq_of_signedTicks_eq h

theorem toInt64_integer (n : Int) : (integer n).toInt64 = clampInt64 n := by
  rw [toInt64, int64?]
  split
  case isTrue hrange => exact (clampInt64_of_mem hrange.1 hrange.2).symm
  case isFalse hrange =>
    rw [Option.getD_none, toBinary64]
    by_cases hlarge : Numeral.greatestInt64 < n
    · -- The first integer above the range is a double, so that rounding stays above the range.
      have hbeyond : (Binary64.ofInt (Numeral.greatestInt64 + 1)).truncate = Numeral.greatestInt64 + 1 :=
        Binary64.truncate_eq_of_signedTicks_eq (Binary64.signedTicks_of_spacing_dvd (by decide +kernel))
      have hle := Binary64.truncate_mono (Int.add_one_le_of_lt hlarge)
      rw [clampInt64_of_greatest_le (Int.le_of_lt hlarge), clampInt64_of_greatest_le (by omega)]
    · have hleast : (Binary64.ofInt Numeral.leastInt64).truncate = Numeral.leastInt64 :=
        Binary64.truncate_eq_of_signedTicks_eq (Binary64.signedTicks_of_spacing_dvd (by decide +kernel))
      have hsmall : n ≤ Numeral.leastInt64 := by omega
      have hle := Binary64.truncate_mono hsmall
      rw [clampInt64_of_le_least hsmall, clampInt64_of_le_least (by omega)]

theorem toInt64_eq_clamp (x : Number) : x.toInt64 = clampInt64 x.integerPart := by
  cases x with
  | integer n => exact toInt64_integer n
  | real y => rfl

end Number

end RowStore
