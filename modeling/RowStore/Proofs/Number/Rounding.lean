import Mathlib.Tactic.Ring
import RowStore.Number.Shortest
import RowStore.Proofs.Number.Integer

/-!
# Rounding

A magnitude is rounded to a multiple of the spacing around it. What is rounded stays on its side of every double, so
rounding keeps the order, and it gives a double back for each point of the interval of that double.
-/

namespace RowStore.Binary64

set_option autoImplicit false

/-- The number of ticks of a finite double. -/
def Representable (ticks : Nat) : Prop :=
  ticks < bound ∧ spacing ticks ∣ ticks

section

variable {step num den m n k : Nat}

/-- The multiple that is at most half a step away is what is rounded to; at half a step it has to be even. -/
theorem roundTo_eq (hcell : 0 < den * step) (hlower : 2 * (m * (den * step)) ≤ 2 * num + den * step)
    (hupper : 2 * num ≤ 2 * (m * (den * step)) + den * step)
    (heven : 2 * (m * (den * step)) = 2 * num + den * step ∨ 2 * num = 2 * (m * (den * step)) + den * step →
      m % 2 = 0) : roundTo step num den = m * step := by
  rw [roundTo]
  generalize den * step = cell at *
  by_cases hle : m * cell ≤ num
  · have hquotient : num / cell = m := by
      apply Nat.div_eq_of_lt_le hle
      rw [Nat.succ_mul]
      omega
    have hrest : num % cell = num - m * cell := by rw [Nat.mod_eq_sub_div_mul, hquotient]
    simp only [hquotient, hrest]
    rw [if_pos (by omega)]
  · obtain ⟨l, rfl⟩ : ∃ l, m = l + 1 := by
      cases m with
      | zero => simp at hle
      | succ l => exact ⟨l, rfl⟩
    have hsucc : (l + 1) * cell = l * cell + cell := Nat.succ_mul l cell
    rw [hsucc] at hle hlower hupper heven
    have hquotient : num / cell = l := by
      apply Nat.div_eq_of_lt_le
      · omega
      · rw [Nat.succ_mul]
        omega
    have hrest : num % cell = num - l * cell := by rw [Nat.mod_eq_sub_div_mul, hquotient]
    simp only [hquotient, hrest]
    rw [if_neg (by omega)]

theorem roundTo_le_of_le (hcell : 0 < den * step) (h : num ≤ m * (den * step)) : roundTo step num den ≤ m * step := by
  have hquotient : num / (den * step) ≤ m := Nat.div_le_of_le_mul (by rwa [Nat.mul_comm])
  rw [roundTo]
  split
  · exact Nat.mul_le_mul_right step hquotient
  · rename_i hup
    apply Nat.mul_le_mul_right step
    -- At the multiple itself nothing is left over, so that it is not passed.
    by_contra hpassed
    have heq : num / (den * step) = m := by omega
    have hrest : num % (den * step) = 0 := by
      rw [Nat.mod_eq_sub_div_mul, heq]
      omega
    exact hup (.inl (by omega))

theorem le_roundTo_of_le (hcell : 0 < den * step) (h : m * (den * step) ≤ num) : m * step ≤ roundTo step num den := by
  have hquotient : m ≤ num / (den * step) := (Nat.le_div_iff_mul_le hcell).mpr h
  rw [roundTo]
  split
  · exact Nat.mul_le_mul_right step hquotient
  · exact Nat.mul_le_mul_right step (Nat.le_succ_of_le hquotient)

theorem roundTo_mono (step den : Nat) (h : m ≤ n) : roundTo step m den ≤ roundTo step n den := by
  have hquotient : m / (den * step) ≤ n / (den * step) := Nat.div_le_div_right h
  have hm := Nat.div_add_mod m (den * step)
  have hn := Nat.div_add_mod n (den * step)
  rw [roundTo, roundTo]
  generalize den * step = cell at *
  rcases Nat.lt_or_eq_of_le hquotient with hlt | heq
  · have hnext : (m / cell + 1) * step ≤ n / cell * step := Nat.mul_le_mul_right step hlt
    rw [Nat.add_one_mul] at hnext
    simp only [Nat.add_one_mul]
    split <;> split <;> omega
  · -- With the same quotient, what is left over of the greater one is no less.
    rw [heq] at hm ⊢
    simp only [Nat.add_one_mul]
    split <;> split <;> omega

/-- At most half a step is added or taken away. -/
theorem roundTo_near (hstep : 0 < step) (num : Nat) : 2 * num ≤ 2 * roundTo step num 1 + step ∧
    2 * roundTo step num 1 ≤ 2 * num + step := by
  have hsum := Nat.div_add_mod num step
  have hrest := Nat.mod_lt num hstep
  rw [Nat.mul_comm] at hsum
  rw [roundTo, Nat.one_mul]
  simp only [Nat.add_one_mul]
  split <;> omega

theorem spacing_of_bounds (hlower : 2 ^ k ≤ n) (hupper : n < 2 ^ (k + 1)) : spacing n = 2 ^ (k - 52) := by
  have hne : n ≠ 0 := Nat.ne_of_gt (Nat.lt_of_lt_of_le (Nat.two_pow_pos k) hlower)
  rw [spacing, (Nat.log2_eq_iff hne).mpr ⟨hlower, hupper⟩, Nat.pow_eq]

theorem spacing_of_lt (h : n < 2 ^ 53) : spacing n = 1 := by
  by_cases hn : n = 0
  · subst hn
    rfl
  · have hlog : n.log2 < 53 := (Nat.log2_lt hn).mpr h
    rw [spacing, Nat.pow_eq, Nat.sub_eq_zero_of_le (by omega), Nat.pow_zero]

theorem lt_spacing_mul (n : Nat) : n < 2 ^ 53 * spacing n := by
  rw [spacing, Nat.pow_eq, ← Nat.pow_add]
  exact Nat.lt_of_lt_of_le Nat.lt_log2_self (Nat.pow_le_pow_right (by decide) (by omega))

theorem spacing_dvd_spacing (h : m ≤ n) : spacing m ∣ spacing n := by
  have hlog : m.log2 ≤ n.log2 := by
    by_cases hm : m = 0
    · subst hm
      exact Nat.zero_le _
    · have hn : n ≠ 0 := by omega
      exact (Nat.le_log2 hn).mpr (Nat.le_trans (Nat.log2_self_le hm) h)
  exact Nat.pow_dvd_pow 2 (by omega)

/-- What is below a double is not rounded beyond it. -/
theorem round_le_of_le (hm : spacing m ∣ m) (hden : 0 < den) (h : num ≤ m * den) : round num den ≤ m := by
  have hle : num / den ≤ m := Nat.div_le_of_le_mul (by rwa [Nat.mul_comm])
  obtain ⟨l, hl⟩ := Nat.dvd_trans (spacing_dvd_spacing hle) hm
  rw [round]
  have hcell := Nat.mul_pos hden (spacing_pos (num / den))
  generalize spacing (num / den) = step at *
  rw [hl, Nat.mul_comm step l]
  apply roundTo_le_of_le hcell
  rw [hl] at h
  calc num ≤ step * l * den := h
    _ = l * (den * step) := by ring

/-- What is above a double is not rounded below it. -/
theorem le_round_of_le (hm : spacing m ∣ m) (hden : 0 < den) (h : m * den ≤ num) : m ≤ round num den := by
  have hle : m ≤ num / den := (Nat.le_div_iff_mul_le hden).mpr h
  have hcell := Nat.mul_pos hden (spacing_pos (num / den))
  -- The grid may be coarser up there, but then a power of two lies between.
  obtain ⟨l, hml, hl⟩ : ∃ l, m ≤ l * spacing (num / den) ∧ l * spacing (num / den) ≤ num / den := by
    by_cases hdvd : spacing (num / den) ∣ m
    · obtain ⟨l, hl⟩ := hdvd
      rw [Nat.mul_comm] at hl
      exact ⟨l, Nat.le_of_eq hl, by rwa [← hl]⟩
    · have hm0 : m ≠ 0 := fun he => hdvd (he ▸ Nat.dvd_zero _)
      have hn0 : num / den ≠ 0 := by omega
      have hlog : m.log2 < (num / den).log2 := by
        by_contra hge
        exact hdvd (Nat.dvd_trans (Nat.pow_dvd_pow 2 (by omega)) hm)
      have hpower : spacing (num / den) ∣ 2 ^ (num / den).log2 := Nat.pow_dvd_pow 2 (by omega)
      obtain ⟨l, hl⟩ := hpower
      rw [Nat.mul_comm] at hl
      refine ⟨l, ?_, hl ▸ Nat.log2_self_le hn0⟩
      rw [← hl]
      exact Nat.le_of_lt ((Nat.log2_lt hm0).mp hlog)
  rw [round]
  refine Nat.le_trans hml (le_roundTo_of_le hcell ?_)
  calc l * (den * spacing (num / den)) = l * spacing (num / den) * den := by ring
    _ ≤ num := (Nat.le_div_iff_mul_le hden).mp hl

theorem spacing_two_pow_dvd (k : Nat) : spacing (2 ^ k) ∣ 2 ^ k := by
  rw [spacing, Nat.log2_two_pow]
  exact Nat.pow_dvd_pow 2 (Nat.sub_le _ _)

theorem round_mono (h : m ≤ n) : round m 1 ≤ round n 1 := by
  by_cases hlog : m.log2 = n.log2
  · rw [round, round, Nat.div_one, Nat.div_one, spacing, spacing, hlog]
    exact roundTo_mono _ 1 h
  · -- Between different powers of two lies one of them, which is a double.
    have hn : n ≠ 0 := by
      rintro rfl
      exact hlog (by rw [Nat.le_zero.mp h])
    have hlt : m.log2 < n.log2 := by
      by_contra hge
      have hm : m ≠ 0 := by
        rintro rfl
        rw [Nat.log2_zero] at hlog hge
        omega
      have hle := (Nat.le_log2 hn).mpr (Nat.le_trans (Nat.log2_self_le hm) h)
      omega
    have hbelow : m ≤ 2 ^ n.log2 :=
      Nat.le_of_lt (Nat.lt_of_lt_of_le Nat.lt_log2_self (Nat.pow_le_pow_right (by decide) hlt))
    calc round m 1 ≤ 2 ^ n.log2 := round_le_of_le (spacing_two_pow_dvd _) (by decide) (by rwa [Nat.mul_one])
      _ ≤ round n 1 := le_round_of_le (spacing_two_pow_dvd _) (by decide) (by rw [Nat.mul_one]; exact Nat.log2_self_le hn)

/-- What a magnitude is rounded to is a double. -/
theorem spacing_round_dvd (num den : Nat) : spacing (round num den) ∣ round num den := by
  rcases Nat.eq_zero_or_pos den with rfl | hden
  · -- Without a denominator the quotient is zero, and the result at most one tick.
    have hsmall : round num 0 < 2 ^ 53 := by
      rw [round, Nat.div_zero, spacing_of_lt (by decide), roundTo, Nat.zero_mul, Nat.div_zero]
      split <;> decide
    rw [spacing_of_lt hsmall]
    exact Nat.one_dvd _
  have hpower := spacing_two_pow_dvd ((num / den).log2 + 1)
  have hle : round num den ≤ 2 ^ ((num / den).log2 + 1) := by
    apply round_le_of_le hpower hden
    exact Nat.le_of_lt ((Nat.div_lt_iff_lt_mul hden).mp Nat.lt_log2_self)
  rcases Nat.lt_or_eq_of_le hle with hlt | heq
  · have hstep : spacing (num / den) ∣ round num den := by
      rw [round, roundTo]
      split <;> exact Nat.dvd_mul_left _ _
    refine Nat.dvd_trans (Nat.pow_dvd_pow 2 (Nat.sub_le_sub_right ?_ 52)) hstep
    by_cases hzero : round num den = 0
    · rw [hzero]
      exact Nat.zero_le _
    · exact Nat.le_of_lt_succ ((Nat.log2_lt hzero).mpr hlt)
  · rw [heq]
    exact hpower

theorem Interval.contains_iff (i : Interval) (num den : Nat) : i.contains num den = true ↔
    i.lower * den ≤ num ∧ num ≤ i.upper * den ∧
      (i.lower * den = num ∨ num = i.upper * den → i.closed = true) := by
  unfold contains
  cases i.closed with
  | true => simp
  | false =>
    simp only [Bool.false_eq_true, if_false, decide_eq_true_eq, imp_false, not_or]
    omega

/-- An interval has the same points whatever fractions they are written as. -/
theorem Interval.contains_congr (i : Interval) {num' den' : Nat} (hden : 0 < den) (hden' : 0 < den')
    (h : num * den' = num' * den) : i.contains num den = i.contains num' den' := by
  have hle : ∀ a, a * den ≤ num ↔ a * den' ≤ num' := by
    intro a
    rw [← Nat.mul_le_mul_right_iff hden', h, Nat.mul_right_comm, Nat.mul_le_mul_right_iff hden]
  have hge : ∀ a, num ≤ a * den ↔ num' ≤ a * den' := by
    intro a
    rw [← Nat.mul_le_mul_right_iff hden', h, Nat.mul_right_comm, Nat.mul_le_mul_right_iff hden]
  rw [Bool.eq_iff_iff, contains_iff, contains_iff]
  simp only [Nat.le_antisymm_iff, hle, hge]

theorem dvd_spacing_sub {a b : Nat} (ha : step ∣ a) (hb : step ∣ b) (h : a < b) : a + step ≤ b := by
  obtain ⟨k, rfl⟩ := ha
  obtain ⟨l, rfl⟩ := hb
  have hkl : k < l := Nat.lt_of_mul_lt_mul_left h
  calc step * k + step = step * (k + 1) := (Nat.mul_succ step k).symm
    _ ≤ step * l := Nat.mul_le_mul_left step hkl

theorem round_of_near {ticks : Nat} (hstep : spacing (num / den) = step) (hden : 0 < den) (hticks : ticks = m * step)
    (hlower : 4 * (ticks * den) ≤ 4 * num + 2 * (step * den)) (hupper : 4 * num ≤ 4 * (ticks * den) + 2 * (step * den))
    (heven : 4 * (ticks * den) = 4 * num + 2 * (step * den) ∨ 4 * num = 4 * (ticks * den) + 2 * (step * den) →
      m % 2 = 0) : round num den = ticks := by
  have hmul : m * (den * step) = ticks * den := by rw [hticks, Nat.mul_comm den step, Nat.mul_assoc]
  have hcell : 0 < den * step := Nat.mul_pos hden (hstep ▸ spacing_pos _)
  rw [Nat.mul_comm step den] at hlower hupper heven
  rw [round, hstep, hticks]
  apply roundTo_eq hcell
  all_goals
    rw [hmul]
    omega

/-- The part of the spacing, in quarters, that lies in the interval below a double. -/
def quartersBelow (ticks : Nat) : Nat :=
  if ticks = Nat.pow 2 ticks.log2 ∧ 1 < spacing ticks then 1 else 2

theorem quartersBelow_le (ticks : Nat) : quartersBelow ticks ≤ 2 := by
  unfold quartersBelow
  split <;> decide

theorem interval_lower_mul (ticks den : Nat) :
    (interval ticks).lower * den = 4 * (ticks * den) - quartersBelow ticks * (spacing ticks * den) := by
  rw [← Nat.mul_assoc, ← Nat.mul_assoc, ← Nat.sub_mul]
  rfl

theorem interval_upper_mul (ticks den : Nat) :
    (interval ticks).upper * den = 4 * (ticks * den) + 2 * (spacing ticks * den) := by
  rw [← Nat.mul_assoc, ← Nat.mul_assoc, ← Nat.add_mul]
  rfl

theorem quartersBelow_mul_le {ticks : Nat} (hne : ticks ≠ 0) (den : Nat) :
    quartersBelow ticks * (spacing ticks * den) ≤ 2 * (ticks * den) :=
  Nat.mul_le_mul (quartersBelow_le ticks) (Nat.mul_le_mul_right den (spacing_le hne))

/-- The interval, as inequalities without subtraction. -/
theorem bounds_of_contains {ticks : Nat} (hne : ticks ≠ 0) (h : (interval ticks).contains num den = true) :
    4 * (ticks * den) ≤ num + quartersBelow ticks * (spacing ticks * den) ∧
      num ≤ 4 * (ticks * den) + 2 * (spacing ticks * den) ∧
      (4 * (ticks * den) = num + quartersBelow ticks * (spacing ticks * den) ∨
        num = 4 * (ticks * den) + 2 * (spacing ticks * den) → ticks / spacing ticks % 2 = 0) := by
  obtain ⟨hlower, hupper, hclosed⟩ := ((interval ticks).contains_iff _ _).mp h
  have hle := quartersBelow_mul_le hne den
  rw [interval_lower_mul] at hlower hclosed
  rw [interval_upper_mul] at hupper hclosed
  refine ⟨by omega, hupper, ?_⟩
  intro htie
  exact of_decide_eq_true (hclosed (by omega))

theorem floor_lt_of_contains {ticks : Nat} (hne : ticks ≠ 0) (hdvd : spacing ticks ∣ ticks) (hden : 0 < den)
    (h : (interval ticks).contains (4 * num) den = true) : num / den < 2 ^ (ticks.log2 + 1) := by
  obtain ⟨_, hupper, _⟩ := bounds_of_contains hne h
  have hpos := Nat.mul_pos (spacing_pos ticks) hden
  have hnext : ticks + spacing ticks ≤ 2 ^ (ticks.log2 + 1) :=
    dvd_spacing_sub hdvd (Nat.pow_dvd_pow 2 (by omega)) Nat.lt_log2_self
  apply (Nat.div_lt_iff_lt_mul hden).mpr
  refine Nat.lt_of_lt_of_le ?_ (Nat.mul_le_mul_right den hnext)
  rw [Nat.add_mul]
  omega

/-- A double whose interval reaches below the power of two under it is this power. -/
theorem eq_pow_of_contains {ticks : Nat} (hne : ticks ≠ 0) (hdvd : spacing ticks ∣ ticks) (hden : 0 < den)
    (h : (interval ticks).contains (4 * num) den = true) (hbelow : num / den < 2 ^ ticks.log2) :
    ticks = 2 ^ ticks.log2 := by
  obtain ⟨hlower, _, _⟩ := bounds_of_contains hne h
  by_contra hmore
  have hpow : 2 ^ ticks.log2 ≤ ticks := Nat.log2_self_le hne
  have hnext : 2 ^ ticks.log2 + spacing ticks ≤ ticks :=
    dvd_spacing_sub (Nat.pow_dvd_pow 2 (Nat.sub_le _ _)) hdvd (by omega)
  have hscaled := Nat.mul_le_mul_right den hnext
  rw [Nat.add_mul] at hscaled
  have htwo : quartersBelow ticks = 2 := if_neg fun hboth => hmore hboth.1
  rw [htwo] at hlower
  have hle : 2 ^ ticks.log2 ≤ num / den := (Nat.le_div_iff_mul_le hden).mpr (by omega)
  omega

theorem le_floor_of_contains {ticks k : Nat} (hne : ticks ≠ 0) (hden : 0 < den)
    (h : (interval ticks).contains (4 * num) den = true) (hticks : ticks = 2 * 2 ^ k) (hspacing : spacing ticks ≤ 2 ^ k) :
    2 ^ k ≤ num / den := by
  obtain ⟨hlower, _, _⟩ := bounds_of_contains hne h
  apply (Nat.le_div_iff_mul_le hden).mpr
  have hscaled := Nat.mul_le_mul (quartersBelow_le ticks) (Nat.mul_le_mul_right den hspacing)
  have hproduct : ticks * den = 2 * (2 ^ k * den) := by rw [hticks, Nat.mul_assoc]
  omega

/-- Below a power of two the spacing is half of what it is above, and the interval reaches half as far down. -/
theorem half_spacing_of_contains {ticks : Nat} (hne : ticks ≠ 0) (hdvd : spacing ticks ∣ ticks) (hden : 0 < den)
    (h : (interval ticks).contains (4 * num) den = true) (hother : spacing (num / den) ≠ spacing ticks) :
    spacing ticks = 2 * spacing (num / den) ∧ num ≤ ticks * den ∧ quartersBelow ticks = 1 := by
  have hspacing : spacing ticks = 2 ^ (ticks.log2 - 52) := rfl
  have hbelow : num / den < 2 ^ ticks.log2 := by
    by_contra hge
    exact hother (spacing_of_bounds (by omega) (floor_lt_of_contains hne hdvd hden h))
  have hlog : 53 ≤ ticks.log2 := by
    by_contra hlt
    apply hother
    rw [spacing_of_lt (Nat.lt_of_lt_of_le hbelow (Nat.pow_le_pow_right (by decide) (by omega))), hspacing,
      Nat.sub_eq_zero_of_le (by omega), Nat.pow_zero]
  have hpower := eq_pow_of_contains hne hdvd hden h hbelow
  obtain ⟨k, hk⟩ : ∃ k, ticks.log2 = k + 1 := ⟨ticks.log2 - 1, by omega⟩
  have hdouble : ticks = 2 * 2 ^ k := by rw [Nat.mul_comm, ← Nat.pow_succ, Nat.succ_eq_add_one, ← hk, ← hpower]
  have hwide : spacing ticks = 2 * 2 ^ (k - 52) := by
    have hexponent : ticks.log2 - 52 = k - 52 + 1 := by omega
    rw [hspacing, hexponent, Nat.pow_succ, Nat.mul_comm]
  have hsmall : spacing ticks ≤ 2 ^ k := by
    rw [hspacing]
    exact Nat.pow_le_pow_right (by decide) (by omega)
  have hfloor := le_floor_of_contains hne hden h hdouble hsmall
  have hstep : spacing (num / den) = 2 ^ (k - 52) := spacing_of_bounds hfloor (hk ▸ hbelow)
  refine ⟨by rw [hwide, hstep], ?_, if_pos ⟨hpower, ?_⟩⟩
  · rw [← hpower] at hbelow
    exact Nat.le_of_lt ((Nat.div_lt_iff_lt_mul hden).mp hbelow)
  · rw [hwide]
    have hone := Nat.two_pow_pos (k - 52)
    omega

/-- The points of the interval of a double are rounded to this double. -/
theorem round_of_contains {ticks : Nat} (hne : ticks ≠ 0) (hdvd : spacing ticks ∣ ticks) (hden : 0 < den)
    (h : (interval ticks).contains (4 * num) den = true) : round num den = ticks := by
  obtain ⟨hlower, hupper, heven⟩ := bounds_of_contains hne h
  have hpos := Nat.mul_pos (spacing_pos ticks) hden
  by_cases hsame : spacing (num / den) = spacing ticks
  · have hquarters := Nat.mul_le_mul_right (spacing ticks * den) (quartersBelow_le ticks)
    apply round_of_near hsame hden (Nat.div_mul_cancel hdvd).symm
    · omega
    · exact hupper
    · intro htie
      exact heven (by omega)
  · obtain ⟨hhalf, hle, hone⟩ := half_spacing_of_contains hne hdvd hden h hsame
    rw [hone, hhalf, Nat.mul_assoc] at hlower
    have hticks : ticks = 2 * (ticks / spacing ticks) * spacing (num / den) := by
      rw [Nat.mul_right_comm, ← hhalf, Nat.mul_comm, Nat.div_mul_cancel hdvd]
    apply round_of_near rfl hden hticks
    · omega
    · omega
    · omega

end

end RowStore.Binary64
