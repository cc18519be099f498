import RowStore.Proofs.Number.Rounding
import RowStore.Proofs.Number.Written

/-!
# Numbers are read back from their text

The text of a finite double is a decimal in the interval of this double, since some grid of seventeen digits has a point
in it, and every decimal in the interval is rounded to the double.
-/

namespace RowStore

set_option autoImplicit false

namespace Binary64

/-- The decimal `coefficient * 10 ^ exponent` lies in the interval of a double. -/
def Near (ticks coefficient : Nat) (exponent : Int) : Prop :=
  (interval ticks).contains (coefficient * (4 * unit * Nat.pow 10 exponent.toNat)) (Nat.pow 10 (-exponent).toNat) = true

section

variable {ticks coefficient : Nat} {exponent : Int}

theorem Near.of_equals {d : Decimal} (hd : d.Equals coefficient exponent) (h : Near ticks coefficient exponent) :
    Near ticks d.coefficient d.exponent := by
  obtain ⟨more, fewer, hvalue, hexponent⟩ := hd
  have hpos : ∀ n, 0 < Nat.pow 10 n := fun n => Nat.pow_pos (by decide)
  unfold Near at h ⊢
  rw [← h]
  apply Interval.contains_congr _ (hpos _) (hpos _)
  simp only [Nat.pow_eq]
  have hpowers : 10 ^ d.exponent.toNat * 10 ^ (-exponent).toNat * 10 ^ more
      = 10 ^ exponent.toNat * 10 ^ (-d.exponent).toNat * 10 ^ fewer := by
    rw [← Nat.pow_add, ← Nat.pow_add, ← Nat.pow_add, ← Nat.pow_add]
    congr 1
    omega
  apply Nat.eq_of_mul_eq_mul_right (hpos fewer)
  rw [Nat.pow_eq]
  calc d.coefficient * (4 * unit * 10 ^ d.exponent.toNat) * 10 ^ (-exponent).toNat * 10 ^ fewer
      = d.coefficient * 10 ^ fewer * (4 * unit) * (10 ^ d.exponent.toNat * 10 ^ (-exponent).toNat) := by ring
    _ = coefficient * (4 * unit) * (10 ^ d.exponent.toNat * 10 ^ (-exponent).toNat * 10 ^ more) := by
        rw [hvalue]
        ring
    _ = coefficient * (4 * unit * 10 ^ exponent.toNat) * 10 ^ (-d.exponent).toNat * 10 ^ fewer := by
        rw [hpowers]
        ring

theorem near_of_onGrid? (h : onGrid? ticks exponent = some coefficient) : Near ticks coefficient exponent := by
  unfold onGrid? at h
  dsimp only at h
  split at h
  case h_1 hbelow habove =>
    split at h
    · cases h
      exact hbelow
    · split at h
      · cases h
        exact habove
      · rw [Option.some.injEq] at h
        subst h
        split
        · exact hbelow
        · exact habove
  case h_2 hbelow _ =>
    cases h
    exact hbelow
  case h_3 habove =>
    cases h
    exact habove
  case h_4 => cases h

theorem onGrid?_ne_none (h : Near ticks coefficient exponent ∨ Near ticks (coefficient + 1) exponent)
    (hc : coefficient = 4 * ticks * Nat.pow 10 (-exponent).toNat / (4 * unit * Nat.pow 10 exponent.toNat)) :
    onGrid? ticks exponent ≠ none := by
  unfold Near at h
  rw [hc] at h
  unfold onGrid?
  dsimp only
  split
  case h_1 =>
    split
    · exact Option.some_ne_none _
    · split <;> exact Option.some_ne_none _
  case h_2 => exact Option.some_ne_none _
  case h_3 => exact Option.some_ne_none _
  case h_4 hbelow habove =>
    rw [hbelow, habove] at h
    rcases h with h | h <;> cases h

theorem Interval.contains_of_lt {i : Interval} {num den : Nat} (hlower : i.lower * den < num)
    (hupper : num < i.upper * den) : i.contains num den = true := by
  rw [contains_iff]
  exact ⟨Nat.le_of_lt hlower, Nat.le_of_lt hupper, fun hend => by omega⟩

/-- Of the two multiples around a point of an interval, one lies in the interval if the step is less than its width. -/
theorem multiple_between (lower upper point : Nat) {step : Nat} (hstep : 0 < step) (hwidth : lower + step < upper)
    (hlower : lower ≤ point) (hupper : point < upper) :
    (lower < point / step * step ∧ point / step * step < upper) ∨
      (lower < (point / step + 1) * step ∧ (point / step + 1) * step < upper) := by
  have hbelow := Nat.div_mul_le_self point step
  have habove : point < (point / step + 1) * step := Nat.lt_mul_of_div_lt (Nat.lt_succ_self _) hstep
  rw [Nat.succ_mul] at habove ⊢
  omega

/-- A grid that is finer than the interval has a point in it, next to the double. -/
theorem exists_onGrid? (hne : ticks ≠ 0) (hfine : 4 * unit * Nat.pow 10 exponent.toNat
      < (quartersBelow ticks + 2) * (spacing ticks * Nat.pow 10 (-exponent).toNat)) :
    ∃ c, onGrid? ticks exponent = some c := by
  rw [← Option.ne_none_iff_exists']
  apply onGrid?_ne_none _ rfl
  unfold Near
  have hscale : 0 < Nat.pow 10 (-exponent).toNat := Nat.pow_pos (by decide)
  have hstep : 0 < 4 * unit * Nat.pow 10 exponent.toNat :=
    Nat.mul_pos (Nat.mul_pos (by decide) unit_pos) (Nat.pow_pos (by decide))
  generalize Nat.pow 10 (-exponent).toNat = scale at *
  generalize 4 * unit * Nat.pow 10 exponent.toNat = step at *
  have hspacing := Nat.mul_pos (spacing_pos ticks) hscale
  have hroom := quartersBelow_mul_le hne scale
  have hlower := interval_lower_mul ticks scale
  have hupper := interval_upper_mul ticks scale
  rw [Nat.add_mul] at hfine
  rw [Nat.mul_assoc 4 ticks]
  apply (multiple_between ((interval ticks).lower * scale) ((interval ticks).upper * scale) (4 * (ticks * scale)) hstep
    (by omega) (by omega) (by omega)).imp
  · rintro ⟨habove, hbelow⟩
    exact Interval.contains_of_lt habove hbelow
  · rintro ⟨habove, hbelow⟩
    exact Interval.contains_of_lt habove hbelow

theorem decimalLength_pos (n : Nat) : 0 < decimalLength n :=
  List.length_pos_iff.mpr Nat.toDigits_ne_nil

theorem lt_pow_decimalLength (n : Nat) : n < 10 ^ decimalLength n :=
  (Nat.length_toDigits_le_iff (by decide) (decimalLength_pos n)).mp (Nat.le_refl _)

theorem pow_decimalLength_le {n : Nat} (hn : n ≠ 0) : 10 ^ (decimalLength n - 1) ≤ n := by
  by_contra hlt
  have hpos := decimalLength_pos n
  by_cases hone : decimalLength n - 1 = 0
  · rw [hone] at hlt
    omega
  · have hle : decimalLength n ≤ decimalLength n - 1 :=
      (Nat.length_toDigits_le_iff (by decide) (by omega)).mpr (by omega)
    omega

theorem unit_le : unit ≤ 10 ^ 340 := by
  obtain ⟨k, rfl, hunit⟩ := unit_eq_pow
  rw [hunit]
  decide +kernel

/-- A double has less than 53 bits more than its interval is wide. -/
theorem four_mul_lt (ticks : Nat) : 4 * ticks < (quartersBelow ticks + 2) * (2 ^ 53 * spacing ticks) := by
  unfold quartersBelow
  split
  case isTrue h =>
    obtain ⟨hpower, hspacing⟩ := h
    have hlog : 52 ≤ ticks.log2 := by
      by_contra hlt
      rw [spacing, Nat.sub_eq_zero_of_le (by omega)] at hspacing
      exact absurd hspacing (by decide)
    have hticks : ticks = 2 ^ 52 * spacing ticks := by
      rw [spacing, Nat.pow_eq, ← Nat.pow_add, Nat.add_sub_cancel' hlog]
      exact hpower
    omega
  case isFalse =>
    have hlt := lt_spacing_mul ticks
    omega

/-- The step of the grid of the seventeenth digit, as a part of the double. -/
theorem seventeenth_le (hne : ticks ≠ 0) (hexponent : exponent = leadingExponent ticks - 16) :
    4 * unit * 10 ^ exponent.toNat * 10 ^ 16 ≤ 4 * (ticks * 10 ^ (-exponent).toNat) := by
  obtain ⟨f, hf⟩ : ∃ f, floorExponent = f := ⟨_, rfl⟩
  have hvalue : f = 340 := hf.symm
  have hlarge : ticks * Nat.pow 10 f / unit ≠ 0 := by
    have hle : unit ≤ ticks * 10 ^ f := by
      rw [hvalue]
      exact Nat.le_trans unit_le (Nat.le_mul_of_pos_left _ (Nat.pos_of_ne_zero hne))
    exact Nat.ne_of_gt (Nat.div_pos hle unit_pos)
  have hdigits := pow_decimalLength_le hlarge
  have hpos := decimalLength_pos (ticks * Nat.pow 10 f / unit)
  rw [leadingExponent, hf] at hexponent
  generalize decimalLength (ticks * Nat.pow 10 f / unit) = length at hdigits hpos hexponent
  rw [Nat.le_div_iff_mul_le unit_pos, Nat.pow_eq] at hdigits
  have hplaces : exponent.toNat + 16 + f = (-exponent).toNat + (length - 1) := by omega
  have hpower : 0 < 10 ^ f := Nat.pow_pos (by decide)
  apply Nat.le_of_mul_le_mul_right _ hpower
  calc 4 * unit * 10 ^ exponent.toNat * 10 ^ 16 * 10 ^ f
      = 4 * unit * 10 ^ (exponent.toNat + 16 + f) := by rw [Nat.pow_add, Nat.pow_add, ← Nat.mul_assoc, ← Nat.mul_assoc]
    _ = 4 * 10 ^ (-exponent).toNat * (10 ^ (length - 1) * unit) := by
        rw [hplaces, Nat.pow_add]
        ring
    _ ≤ 4 * 10 ^ (-exponent).toNat * (ticks * 10 ^ f) := Nat.mul_le_mul_left _ hdigits
    _ = 4 * (ticks * 10 ^ (-exponent).toNat) * 10 ^ f := by ring

/-- Seventeen digits are enough: the grid of the seventeenth has a point in the interval of any double. -/
theorem exists_onGrid?_seventeenth (hne : ticks ≠ 0) :
    ∃ c, onGrid? ticks (leadingExponent ticks - 16) = some c := by
  have hstep := seventeenth_le hne rfl
  generalize leadingExponent ticks - 16 = exponent at hstep ⊢
  apply exists_onGrid? hne
  rw [Nat.pow_eq, Nat.pow_eq]
  have hscale : 0 < 10 ^ (-exponent).toNat := Nat.pow_pos (by decide)
  generalize 10 ^ (-exponent).toNat = scale at *
  generalize 4 * unit * 10 ^ exponent.toNat = step at *
  have hwide : 4 * (ticks * scale) < (quartersBelow ticks + 2) * (spacing ticks * scale) * 2 ^ 53 := by
    calc 4 * (ticks * scale) = 4 * ticks * scale := (Nat.mul_assoc 4 ticks scale).symm
      _ < (quartersBelow ticks + 2) * (2 ^ 53 * spacing ticks) * scale :=
          Nat.mul_lt_mul_of_pos_right (four_mul_lt ticks) hscale
      _ = (quartersBelow ticks + 2) * (spacing ticks * scale) * 2 ^ 53 := by ring
  omega

theorem near_shortest (hne : ticks ≠ 0) : Near ticks (shortest ticks).1 (shortest ticks).2 := by
  obtain ⟨c, hc⟩ := exists_onGrid?_seventeenth hne
  have hsome : ((List.range 17).findSome? fun (i : Nat) =>
      (onGrid? ticks (leadingExponent ticks - i)).map (·, leadingExponent ticks - i)).isSome = true := by
    rw [List.findSome?_isSome_iff]
    refine ⟨16, by decide, ?_⟩
    rw [Option.isSome_map]
    exact Option.isSome_of_eq_some hc
  obtain ⟨found, hfound⟩ := Option.isSome_iff_exists.mp hsome
  have hshortest : shortest ticks = found := by
    unfold shortest
    dsimp only
    rw [hfound]
    rfl
  obtain ⟨i, _, hi⟩ := List.exists_of_findSome?_eq_some hfound
  obtain ⟨coefficient, hcoefficient, rfl⟩ := Option.map_eq_some_iff.mp hi
  rw [hshortest]
  exact near_of_onGrid? hcoefficient

/-- A decimal in the interval of a double has about the size of the double. -/
theorem Near.bounds (hne : ticks ≠ 0) (h : Near ticks coefficient exponent) :
    ticks * 10 ^ (-exponent).toNat ≤ coefficient * 10 ^ exponent.toNat * (2 * unit) ∧
      coefficient * 10 ^ exponent.toNat * (4 * unit) ≤ 6 * (ticks * 10 ^ (-exponent).toNat) := by
  obtain ⟨hlower, hupper, _⟩ := bounds_of_contains hne h
  rw [Nat.pow_eq] at hlower hupper
  rw [Nat.pow_eq] at hlower hupper
  have hroom := quartersBelow_mul_le hne (10 ^ (-exponent).toNat)
  have hspacing := Nat.mul_le_mul_right (10 ^ (-exponent).toNat) (spacing_le hne)
  have hnum : coefficient * (4 * unit * 10 ^ exponent.toNat) = coefficient * 10 ^ exponent.toNat * (4 * unit) := by ring
  have htwice : coefficient * 10 ^ exponent.toNat * (4 * unit)
      = 2 * (coefficient * 10 ^ exponent.toNat * (2 * unit)) := by ring
  rw [hnum] at hlower hupper
  omega

theorem two_mul_unit_lt : ∃ n, n = 331 ∧ 2 * unit < 10 ^ n := by
  obtain ⟨k, rfl, hunit⟩ := unit_eq_pow
  refine ⟨331, rfl, ?_⟩
  rw [hunit]
  decide +kernel

theorem six_mul_bound_le : 6 * bound ≤ 10 ^ 310 * (4 * unit) := by
  obtain ⟨k, hk, hunit⟩ := unit_eq_pow
  obtain ⟨l, hl, hbound⟩ := bound_eq_pow
  obtain ⟨m, hm, hpower⟩ : ∃ m, m = 1024 ∧ 6 * 2 ^ m ≤ 10 ^ 310 * 4 := ⟨1024, rfl, by decide +kernel⟩
  have hle := Nat.mul_le_mul_right (2 ^ k) hpower
  rw [Nat.mul_assoc, ← Nat.pow_add, Nat.mul_assoc] at hle
  have hsum : m + k = l := by omega
  rw [hsum] at hle
  rw [hunit, hbound]
  exact hle

/-- The first digit of a decimal in the interval of a double is not so far to the right that it is taken for zero. -/
theorem Near.top_ge (hne : ticks ≠ 0) (h : Near ticks coefficient exponent) :
    -330 ≤ decimalLength coefficient + exponent := by
  by_contra hlow
  have hlower := (h.bounds hne).1
  have hdigits := lt_pow_decimalLength coefficient
  have hexponent : exponent.toNat = 0 := by omega
  obtain ⟨n, hn, hscale⟩ := two_mul_unit_lt
  have hplaces : decimalLength coefficient + n ≤ (-exponent).toNat := by omega
  rw [hexponent, Nat.pow_zero, Nat.mul_one] at hlower
  have hcontra : 10 ^ (-exponent).toNat < 10 ^ (-exponent).toNat := by
    calc 10 ^ (-exponent).toNat ≤ ticks * 10 ^ (-exponent).toNat := Nat.le_mul_of_pos_left _ (Nat.pos_of_ne_zero hne)
      _ ≤ coefficient * (2 * unit) := hlower
      _ ≤ 10 ^ decimalLength coefficient * (2 * unit) := Nat.mul_le_mul_right _ (Nat.le_of_lt hdigits)
      _ < 10 ^ decimalLength coefficient * 10 ^ n := Nat.mul_lt_mul_of_pos_left hscale (Nat.pow_pos (by decide))
      _ = 10 ^ (decimalLength coefficient + n) := (Nat.pow_add 10 _ n).symm
      _ ≤ 10 ^ (-exponent).toNat := Nat.pow_le_pow_right (by decide) hplaces
  exact Nat.lt_irrefl _ hcontra

/-- Nor is it so far to the left that the decimal is out of range. -/
theorem Near.top_le (hne : ticks ≠ 0) (hc : coefficient ≠ 0) (hticks : ticks < bound)
    (h : Near ticks coefficient exponent) : decimalLength coefficient + exponent ≤ 310 := by
  by_contra hhigh
  have hupper := (h.bounds hne).2
  have hdigits := pow_decimalLength_le hc
  have hpos := decimalLength_pos coefficient
  have hplaces : 310 + (-exponent).toNat ≤ decimalLength coefficient - 1 + exponent.toNat := by omega
  have hscale : 0 < 10 ^ (-exponent).toNat := Nat.pow_pos (by decide)
  have hcontra : 6 * (ticks * 10 ^ (-exponent).toNat) < 6 * (ticks * 10 ^ (-exponent).toNat) := by
    calc 6 * (ticks * 10 ^ (-exponent).toNat) < 6 * (bound * 10 ^ (-exponent).toNat) :=
          Nat.mul_lt_mul_of_pos_left (Nat.mul_lt_mul_of_pos_right hticks hscale) (by decide)
      _ = 6 * bound * 10 ^ (-exponent).toNat := (Nat.mul_assoc 6 bound _).symm
      _ ≤ 10 ^ 310 * (4 * unit) * 10 ^ (-exponent).toNat := Nat.mul_le_mul_right _ six_mul_bound_le
      _ = 10 ^ (310 + (-exponent).toNat) * (4 * unit) := by rw [Nat.pow_add, Nat.mul_right_comm]
      _ ≤ 10 ^ (decimalLength coefficient - 1 + exponent.toNat) * (4 * unit) :=
          Nat.mul_le_mul_right _ (Nat.pow_le_pow_right (by decide) hplaces)
      _ ≤ coefficient * 10 ^ exponent.toNat * (4 * unit) := by
          rw [Nat.pow_add]
          exact Nat.mul_le_mul_right _ (Nat.mul_le_mul_right _ hdigits)
      _ ≤ 6 * (ticks * 10 ^ (-exponent).toNat) := hupper
  exact Nat.lt_irrefl _ hcontra

theorem Near.coefficient_ne_zero (hne : ticks ≠ 0) (h : Near ticks coefficient exponent) : coefficient ≠ 0 := by
  rintro rfl
  have hlower := (h.bounds hne).1
  rw [Nat.zero_mul, Nat.zero_mul] at hlower
  have hscale : 0 < 10 ^ (-exponent).toNat := Nat.pow_pos (by decide)
  have hpos := Nat.mul_pos (Nat.pos_of_ne_zero hne) hscale
  omega

theorem ofDecimal?_of_near (negative : Bool) (hne : ticks ≠ 0) (hticks : Representable ticks)
    (h : Near ticks coefficient exponent) : ofDecimal? negative coefficient exponent = some ⟨negative, ticks⟩ := by
  have hc := h.coefficient_ne_zero hne
  have hge := h.top_ge hne
  have hle := h.top_le hne hc hticks.1
  have hrounded : ∀ {num den : Nat}, 0 < den → (interval ticks).contains (4 * num) den = true →
      ofTicks? negative num den = some ⟨negative, ticks⟩ := by
    intro num den hden hcontains
    rw [ofTicks?, round_of_contains hne hticks.2 hden hcontains]
    exact if_pos hticks.1
  unfold Near at h
  rw [ofDecimal?, if_neg (by omega), if_neg (by omega)]
  generalize unit = scale at h ⊢
  by_cases hnegative : exponent < 0
  · have hplain : exponent.toNat = 0 := by omega
    have habs : (-exponent).toNat = exponent.natAbs := by omega
    have hnum : coefficient * (4 * scale * Nat.pow 10 0) = 4 * (coefficient * scale) := by
      rw [Nat.pow_eq, Nat.pow_zero]
      ring
    rw [hplain, habs, hnum] at h
    rw [if_pos hnegative]
    exact hrounded (Nat.pow_pos (by decide)) h
  · have hplain : (-exponent).toNat = 0 := by omega
    have habs : exponent.toNat = exponent.natAbs := by omega
    have hnum : coefficient * (4 * scale * Nat.pow 10 exponent.natAbs)
        = 4 * (coefficient * Nat.pow 10 exponent.natAbs * scale) := by ring
    rw [hplain, habs, hnum] at h
    rw [if_neg hnegative]
    exact hrounded (by decide) h

end

/-- A finite double is read back from its text. -/
theorem ofText?_text {x : Binary64} (h : Representable x.ticks) : ofText? (Number.text (.real x)) = some x := by
  change ofText? (Numeral.signed x.negative (Number.magnitudeText Number.layout x.ticks)) = some x
  by_cases hzero : x.ticks = 0
  · obtain ⟨negative, ticks⟩ := x
    dsimp only at hzero ⊢
    subst hzero
    have hread : Numeral.decimal? (Numeral.signed negative (Number.magnitudeText Number.layout 0))
        = some ⟨negative, 0, -1⟩ := by
      cases negative <;> rfl
    rw [ofText?, hread]
    change ofDecimal? negative 0 (-1) = _
    rw [ofDecimal?, if_pos (.inl rfl)]
  · have hnear := near_shortest hzero
    obtain ⟨d, hd, hnegative, hequals⟩ := Number.decimal?_magnitudeText x.negative hzero
      (hnear.coefficient_ne_zero hzero) rfl
    rw [ofText?, hd]
    change ofDecimal? d.negative d.coefficient d.exponent = _
    rw [hnegative]
    exact ofDecimal?_of_near x.negative hzero h (hnear.of_equals hequals)

end Binary64

end RowStore
