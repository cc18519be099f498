import RowStore.Json.Reader
import RowStore.Proofs.Number.ReadBack

/-!
# Numbers in range

The numerals of a JSON text stand for integers of 64 bits and for finite doubles. Such a number has itself as the numeric
reading of its text.
-/

namespace RowStore

set_option autoImplicit false

namespace Binary64

theorem representable_of_ofTicks? {negative : Bool} {num den : Nat} {x : Binary64}
    (h : ofTicks? negative num den = some x) : Representable x.ticks := by
  unfold ofTicks? at h
  dsimp only at h
  split at h
  case isTrue hlt =>
    cases h
    exact ⟨hlt, spacing_round_dvd num den⟩
  case isFalse => cases h

theorem representable_ofInt {n : Int} (h : n.natAbs < Numeral.wordBound) : Representable (ofInt n).ticks := by
  refine ⟨?_, spacing_round_dvd _ 1⟩
  have hle := round_integer_le (n.natAbs * unit)
  have hlt := word_lt_bound h
  exact Nat.lt_of_le_of_lt hle hlt

end Binary64

/-- A number that a text can stand for: an integer that 64 bits hold, with or without a sign, or a finite double. -/
def Number.InRange : Number → Prop
  | integer n => Numeral.leastInt64 ≤ n ∧ n < Numeral.wordBound
  | real x => Binary64.Representable x.ticks

theorem Number.InRange.natAbs_lt {n : Int} (h : (integer n).InRange) : n.natAbs < Numeral.wordBound := by
  obtain ⟨hlower, hupper⟩ := h
  unfold Numeral.leastInt64 at hlower
  unfold Numeral.wordBound at *
  omega

/-- The text of a number has this number as its numeric reading. -/
theorem Value.numeric?_text {n : Number} (h : n.InRange) :
    (string (number n).text).numeric? = some n.toBinary64 := by
  cases n with
  | integer n => exact numeric?_integerText h.natAbs_lt
  | real x =>
    have hread := Binary64.ofText?_text h
    obtain ⟨d, hd, _⟩ := Option.bind_eq_some_iff.mp hread
    change (string (String.ofList (Number.text (.real x)))).numeric? = some x
    rw [numeric?, String.toList_ofList, Numeral.trim_of_decimal? hd, hread]

namespace Json

open Binary64

theorem representable_of_down {x y : Binary64} {e : Nat} (hx : Representable x.ticks)
    (h : scale?.down x e = some y) : Representable y.ticks := by
  fun_induction scale?.down x e with
  | case1 x e hlast =>
    obtain ⟨power, _, hdiv⟩ := Option.bind_eq_some_iff.mp h
    exact representable_of_ofTicks? hdiv
  | case2 x e hmore hzero =>
    cases h
    exact hx
  | case3 x e hmore hzero ih =>
    obtain ⟨power, _, hrest⟩ := Option.bind_eq_some_iff.mp h
    obtain ⟨quotient, hdiv, hdown⟩ := Option.bind_eq_some_iff.mp hrest
    exact ih quotient (representable_of_ofTicks? hdiv) hdown

theorem representable_of_scale? {x y : Binary64} {exponent : Int} (hx : Representable x.ticks)
    (h : x.scale? exponent = some y) : Representable y.ticks := by
  cases exponent with
  | ofNat e =>
    unfold scale? at h
    dsimp only at h
    split at h
    · obtain ⟨power, _, hmul⟩ := Option.bind_eq_some_iff.mp h
      exact representable_of_ofTicks? hmul
    · split at h
      · cases h
        exact hx
      · cases h
  | negSucc e => exact representable_of_down hx h

theorem accumulate_lt {significand : Nat} (h : significand < Numeral.wordBound) (digits : List Char) :
    (accumulate significand digits).1 < Numeral.wordBound := by
  fun_induction accumulate significand digits with
  | case1 significand => exact h
  | case2 significand digit rest next hnext ih => exact ih hnext
  | case3 significand digit rest next hnext => exact h

theorem representable_of_realOf? {negative : Bool} {whole fraction : List Char} {exponent : Int} {x : Binary64}
    (h : realOf? negative whole fraction exponent = some x) : Representable x.ticks := by
  unfold realOf? at h
  have hupper := accumulate_lt (by decide : 0 < Numeral.wordBound) whole
  generalize accumulate 0 whole = read at h hupper
  obtain ⟨upper, wholeLeft⟩ := read
  have hsignificand := accumulate_lt hupper fraction
  dsimp only at h hsignificand
  generalize accumulate upper fraction = read at h hsignificand
  obtain ⟨significand, fractionLeft⟩ := read
  obtain ⟨y, hy, hsign⟩ := Option.map_eq_some_iff.mp h
  have hrange := representable_of_scale? (representable_ofInt (n := significand) hsignificand) hy
  rw [← hsign]
  split <;> exact hrange

theorem wholeOf?_inRange {negative : Bool} {digits : List Char} {n : Number} (h : wholeOf? negative digits = some n) :
    n.InRange := by
  have hreal : ∀ {negative : Bool}, (realOf? negative digits [] 0).map .real = some n → n.InRange := by
    intro negative h
    obtain ⟨x, hx, rfl⟩ := Option.map_eq_some_iff.mp h
    exact representable_of_realOf? hx
  unfold wholeOf? at h
  dsimp only at h
  have hleast : Numeral.leastInt64 ≤ 0 := by decide
  split at h
  · split at h
    case isTrue hlarge =>
      cases h
      exact ⟨hlarge.2, Int.lt_of_le_of_lt (Int.neg_nonpos_of_nonneg (Int.natCast_nonneg _)) (by decide)⟩
    case isFalse => exact hreal h
  · split at h
    case isTrue hsmall =>
      cases h
      exact ⟨by omega, by omega⟩
    case isFalse => exact hreal h

/-- A numeral of a JSON text stands for a number in range. -/
theorem number?_inRange {text rest : List Char} {n : Number} (h : number? text = some (n, rest)) : n.InRange := by
  unfold number? at h
  dsimp only at h
  split at h
  all_goals
    dsimp only at h
    split at h
    case isTrue => cases h
    case isFalse =>
      obtain ⟨fraction, _, hexponent⟩ := Option.bind_eq_some_iff.mp h
      obtain ⟨exponent, _, hnumber⟩ := Option.bind_eq_some_iff.mp hexponent
      split at hnumber
      case h_1 =>
        obtain ⟨m, hm, hpair⟩ := Option.bind_eq_some_iff.mp hnumber
        cases hpair
        exact wholeOf?_inRange hm
      case h_2 =>
        obtain ⟨m, hm, hpair⟩ := Option.bind_eq_some_iff.mp hnumber
        obtain ⟨x, hx, rfl⟩ := Option.map_eq_some_iff.mp hm
        cases hpair
        exact representable_of_realOf? hx

end Json

end RowStore
