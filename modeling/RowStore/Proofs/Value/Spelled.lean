import RowStore.Proofs.Value.Agreement
import RowStore.Query.Bracket

/-!
# Keys that are spelled

A text in a path is taken for an integer if it is a numeral of one, and for itself otherwise. This changes nothing about
the values it equals: a text that spells an integer has the numeric reading of this integer, with leading zeros or a sign
too, and no text of a value without a numeric reading spells one.
-/

namespace RowStore

set_option autoImplicit false

namespace Numeral

variable {text : List Char} {n : Int}

/-- A numeral of an integer as a decimal; only zero may have the other sign. -/
theorem Denotes.decimal?_eq (h : Denotes text n) :
    ∃ negative : Bool, decimal? text = some ⟨negative, n.natAbs, 0⟩ ∧ (n ≠ 0 → negative = decide (n < 0)) := by
  have hwhole : ∀ (negative : Bool) {digits : List Char}, digits ≠ [] → (∀ c ∈ digits, c.isDigit = true) →
      decimal? (signed negative digits) = some ⟨negative, ofDigits digits, 0⟩ := by
    intro negative digits hne hdigits
    have hread := decimal?_whole negative [] hne hdigits (by simp) rfl
    rwa [List.append_nil] at hread
  cases h with
  | unsigned hne hdigits =>
    refine ⟨false, hwhole false hne hdigits, ?_⟩
    intro _
    simp
  | @plus digits hne hdigits =>
    -- A plus is passed over.
    have hsign : takeSign digits = (false, digits) :=
      takeSign_signed false fun c hc => hdigits c (List.mem_of_mem_head? hc)
    have hplus : decimal? ('+' :: digits) = decimal? digits := by
      rw [decimal?, decimal?, hsign]
      rfl
    refine ⟨false, hplus.trans (hwhole false hne hdigits), ?_⟩
    intro _
    simp
  | @minus digits hne hdigits =>
    refine ⟨true, ?_, ?_⟩
    · rw [Int.natAbs_neg, Int.natAbs_natCast]
      exact hwhole true hne hdigits
    · intro hzero
      simp only [true_eq_decide_iff]
      omega

theorem denotes_integerText (n : Int) : Denotes (Number.integerText n) n := by
  have hdigits : ∀ c ∈ Nat.toDigits 10 n.natAbs, c.isDigit = true := fun _ => isDigit_toDigits
  unfold Number.integerText
  by_cases hn : n < 0
  · have hminus := Denotes.minus Nat.toDigits_ne_nil hdigits
    rw [ofDigits_toDigits] at hminus
    have hvalue : -(n.natAbs : Int) = n := by omega
    rw [hvalue] at hminus
    rwa [if_pos hn]
  · have hunsigned := Denotes.unsigned Nat.toDigits_ne_nil hdigits
    rw [ofDigits_toDigits] at hunsigned
    have hvalue : (n.natAbs : Int) = n := by omega
    rw [hvalue] at hunsigned
    rwa [if_neg hn]

theorem int64?_eq_some_iff :
    int64? text = some n ↔ Denotes text n ∧ leastInt64 ≤ n ∧ n ≤ greatestInt64 := by
  rw [int64?, Option.filter_eq_some_iff, integer?_eq_some_iff, decide_eq_true_eq]

theorem natAbs_lt_of_int64 (hlower : leastInt64 ≤ n) (hupper : n ≤ greatestInt64) : n.natAbs < wordBound := by
  unfold leastInt64 at hlower
  unfold greatestInt64 at hupper
  unfold wordBound
  omega

end Numeral

/-- A numeral of an integer reads as the double of the integer, up to the sign of zero. -/
theorem Binary64.exists_ofText?_of_denotes {text : List Char} {n : Int} (h : Numeral.Denotes text n)
    (hn : n.natAbs < Numeral.wordBound) : ∃ x, ofText? text = some x ∧ x.signedTicks = (ofInt n).signedTicks := by
  obtain ⟨negative, hread, hsign⟩ := h.decimal?_eq
  rw [ofText?, hread]
  change ∃ x, ofDecimal? negative n.natAbs 0 = some x ∧ _
  by_cases hzero : n = 0
  · subst hzero
    have hzeros : ofDecimal? negative 0 0 = some ⟨negative, 0⟩ := by rw [ofDecimal?, if_pos (.inl rfl)]
    refine ⟨⟨negative, 0⟩, hzeros, ?_⟩
    rw [signedTicks_ofInt (Nat.zero_le _), signedTicks, Int.zero_mul]
    split <;> rfl
  · rw [hsign hzero]
    exact ⟨ofInt n, ofDecimal?_integer hn, rfl⟩

namespace Value

variable {a b : Value} {raw : String} {n : Int}

theorem numeric?_of_denotes (h : Numeral.Denotes raw.toList n) :
    (string raw).numeric? = Binary64.ofText? raw.toList := by
  obtain ⟨negative, hread, _⟩ := h.decimal?_eq
  rw [numeric?, Numeral.trim_of_decimal? hread]

/-- What equals a text that spells an integer equals the integer. -/
theorem same_of_denotes (h : Numeral.Denotes raw.toList n) (hn : n.natAbs < Numeral.wordBound) (hnull : a ≠ .null) :
    a.same (.string raw) = a.same (.ofInt n) := by
  obtain ⟨x, hread, hticks⟩ := Binary64.exists_ofText?_of_denotes h hn
  have hraw : (string raw).numeric? = some x := (numeric?_of_denotes h).trans hread
  cases ha : a.numeric? with
  | some y => rw [same_of_numeric ha hraw, same_of_numeric ha (numeric?_ofInt n), Binary64.same, Binary64.same, hticks]
  | none =>
    -- The text of `a` is no numeral, so it is neither the one nor the other.
    rw [same_ofInt_of_none ha hnull hn, same_of_numeric_none (.inl ha), beq_eq_false_iff_ne]
    intro htext
    have hnone := numeric?_text_of_none ha hnull
    rw [htext, text, hraw] at hnone
    cases hnone

/-- A key from a path equals what its text equals. -/
theorem same_key (raw : String) (hnull : a ≠ .null) : a.same (Bracket.key raw) = a.same (.string raw) := by
  unfold Bracket.key
  cases hread : Numeral.int64? raw.toList with
  | none => rfl
  | some n =>
    obtain ⟨hdenotes, hlower, hupper⟩ := Numeral.int64?_eq_some_iff.mp hread
    exact (same_of_denotes hdenotes (Numeral.natAbs_lt_of_int64 hlower hupper) hnull).symm

/-- A key from a path is an integer or a text. -/
theorem key_cases (raw : String) : (∃ n : Int, Bracket.key raw = .ofInt n) ∨ Bracket.key raw = .string raw := by
  unfold Bracket.key
  split
  · exact .inl ⟨_, rfl⟩
  · exact .inr rfl

/-- A value equals its text. -/
theorem same_text (h : a.InRange) : a.same (.string a.text) = true := by
  cases a with
  | number m => rw [same_of_numeric rfl (numeric?_text h), Binary64.same, beq_self_eq_true]
  | string s => exact same_self _
  | bool flag =>
    rw [same_comm]
    exact Writes.same ⟨flag, rfl, rfl⟩
  | null => rfl
  | array items =>
    rw [same_of_numeric_none (.inl rfl)]
    exact beq_self_eq_true _
  | object fields =>
    rw [same_of_numeric_none (.inl rfl)]
    exact beq_self_eq_true _

/-- What equals the text of a value equals the value, unless this is a boolean: one is true, but not the word. -/
theorem same_of_same_text (ha : a.InRange) (hnull : a ≠ .null) (hbool : ∀ flag, a ≠ .bool flag)
    (h : b.same (.string a.text) = true) : b.same a = true := by
  cases hx : a.numeric? with
  | none =>
    rw [same_of_numeric_none (.inr (numeric?_text_of_none hx hnull))] at h
    rwa [same_of_numeric_none (.inr hx)]
  | some x =>
    cases a with
    | null | array _ | object _ => cases hx
    | bool flag => exact absurd rfl (hbool flag)
    | string s => exact h
    | number m =>
      have htext := numeric?_text ha
      cases hb : b.numeric? with
      | some y =>
        rw [same_of_numeric hb htext] at h
        rwa [same_of_numeric hb rfl]
      | none =>
        rw [same_of_numeric_none (.inl hb)] at h
        rwa [same_of_numeric_none (.inl hb)]

end Value

end RowStore
