import RowStore.Proofs.Number.InRange
import RowStore.Proofs.Number.Whole
import RowStore.Proofs.Query.Controls

/-!
# Counts

A limit and a number of rows to pass over are counts: integers, as numbers or as text, without their sign. They are read
through integers of 64 signed bits, which an integer above these does not survive, and a number with a fraction does.
-/

namespace RowStore

set_option autoImplicit false

/-- A value that is an integer: a number of either form without a fraction, or a text that spells one. -/
def Value.IsInteger (value : Value) (n : Int) : Prop :=
  match value with
  | .number x => x.IsInteger n
  | .string s => Numeral.Spells s.toList n
  | _ => False

theorem Value.IsInteger.unique {value : Value} {m n : Int} (hm : value.IsInteger m) (hn : value.IsInteger n) : m = n := by
  cases value with
  | number x => exact hm.integerPart_eq.symm.trans hn.integerPart_eq
  | string s => exact Option.some.inj ((Numeral.spells_iff.mp hm).symm.trans (Numeral.spells_iff.mp hn))
  | _ => exact hm.elim

namespace Controls

variable {control : String} {value : Value} {outcome : Except QueryError (Option Nat)} {n : Int}

/-- What a count should be: none for null, the magnitude of an integer of 64 bits, with or without a sign, and nothing else
should count. -/
inductive ExactCount (control : String) : Value → Except QueryError (Option Nat) → Prop where
  | absent : ExactCount control .null (.ok .none)
  | magnitude {value : Value} {n : Int} (hvalue : value.IsInteger n) (hrange : (Number.integer n).InRange) :
    ExactCount control value (.ok (some n.natAbs))
  | refused {value : Value} (hnull : value ≠ .null)
    (hvalue : ∀ n, value.IsInteger n → ¬ (Number.integer n).InRange) :
    ExactCount control value (.error (.invalidNumber control))

theorem ExactCount.unique {other : Except QueryError (Option Nat)} (h : ExactCount control value outcome)
    (hother : ExactCount control value other) : outcome = other := by
  cases h with
  | absent =>
    cases hother with
    | absent => rfl
    | magnitude hvalue _ => exact hvalue.elim
    | refused hnull _ => exact absurd rfl hnull
  | magnitude hvalue hrange =>
    cases hother with
    | absent => exact hvalue.elim
    | magnitude hvalue' _ => rw [hvalue.unique hvalue']
    | refused _ hnone => exact absurd hrange (hnone _ hvalue)
  | refused hnull hnone =>
    cases hother with
    | absent => exact absurd rfl hnull
    | magnitude hvalue hrange => exact absurd hrange (hnone _ hvalue)
    | refused _ _ => rfl

/-- What does not come out as it should: a number that is no integer of 64 signed bits, and the text of an integer that is
above these and within 64 bits without a sign. -/
inductive Strays : Value → Prop where
  | number {x : Number} (h : ∀ n, x.IsInteger n → ¬ (Numeral.leastInt64 ≤ n ∧ n ≤ Numeral.greatestInt64)) : Strays (.number x)
  | text {s : String} {n : Int} (h : Numeral.Spells s.toList n) (hlarge : Numeral.greatestInt64 < n)
    (hword : n < Numeral.wordBound) : Strays (.string s)

theorem readCount_number (control : String) (x : Number) :
    readCount control (.number x) = .ok (some (Number.clampInt64 x.integerPart).natAbs) := by
  rw [← Number.toInt64_eq_clamp]
  rfl

theorem readCount_text (control : String) {s : String} (h : Numeral.Spells s.toList n) : readCount control (.string s) =
    if Numeral.leastInt64 ≤ n ∧ n ≤ Numeral.greatestInt64 then .ok (some n.natAbs)
    else .error (.invalidNumber control) := by
  have hread : integer? (.string s) = if Numeral.leastInt64 ≤ n ∧ n ≤ Numeral.greatestInt64 then some n else .none := by
    change (Numeral.integer? _).filter _ = _
    rw [Numeral.spells_iff.mp h, Option.filter_some]
    simp only [decide_eq_true_eq]
  rw [readCount, hread, if_neg (by simp)]
  by_cases hrange : Numeral.leastInt64 ≤ n ∧ n ≤ Numeral.greatestInt64
  · rw [if_pos hrange, if_pos hrange]
  · rw [if_neg hrange, if_neg hrange]

theorem readCount_of_not_spells (control : String) {s : String} (h : ∀ n, ¬ Numeral.Spells s.toList n) :
    readCount control (.string s) = .error (.invalidNumber control) := by
  have hnone : Numeral.integer? (Text.trim s.toList) = .none := by
    by_contra hsome
    obtain ⟨n, hn⟩ := Option.ne_none_iff_exists'.mp hsome
    exact h n (Numeral.spells_iff.mpr hn)
  have hread : integer? (.string s) = .none := by
    change (Numeral.integer? _).filter _ = _
    rw [hnone, Option.filter_none]
  rw [readCount, hread, if_neg (by simp)]

/-- An integer of 64 signed bits is read as it is, from a number and from a text alike. -/
theorem readCount_of_isInteger (control : String) (h : value.IsInteger n) (hlower : Numeral.leastInt64 ≤ n)
    (hupper : n ≤ Numeral.greatestInt64) : readCount control value = .ok (some n.natAbs) := by
  cases value with
  | number x => rw [readCount_number, h.integerPart_eq, Number.clampInt64_of_mem hlower hupper]
  | string s => rw [readCount_text control h, if_pos ⟨hlower, hupper⟩]
  | _ => exact h.elim

theorem inRange_of_le_greatest (hlower : Numeral.leastInt64 ≤ n) (hupper : n ≤ Numeral.greatestInt64) :
    (Number.integer n).InRange :=
  ⟨hlower, Int.lt_of_le_of_lt hupper (by decide)⟩

theorem exactCount_readCount (control : String) (h : ¬ Strays value) : ExactCount control value (readCount control value) := by
  have hrefused : ∀ {value : Value}, value ≠ .null → (∀ n, ¬ value.IsInteger n) →
      ExactCount control value (.error (.invalidNumber control)) :=
    fun hnull hvalue => .refused hnull fun n hn => absurd hn (hvalue n)
  cases value with
  | null => exact .absent
  | bool b => exact hrefused nofun fun _ => id
  | array items => exact hrefused nofun fun _ => id
  | object fields => exact hrefused nofun fun _ => id
  | number x =>
    obtain ⟨n, hn, hlower, hupper⟩ : ∃ n, x.IsInteger n ∧ Numeral.leastInt64 ≤ n ∧ n ≤ Numeral.greatestInt64 := by
      by_contra hnone
      exact h (.number fun n hn hrange => hnone ⟨n, hn, hrange⟩)
    have hvalue : (Value.number x).IsInteger n := hn
    rw [readCount_of_isInteger control hvalue hlower hupper]
    exact .magnitude hvalue (inRange_of_le_greatest hlower hupper)
  | string s =>
    by_cases hspells : ∃ n, Numeral.Spells s.toList n
    · obtain ⟨n, hn⟩ := hspells
      have hvalue : (Value.string s).IsInteger n := hn
      rw [readCount_text control hn]
      split
      case isTrue hrange => exact .magnitude hvalue (inRange_of_le_greatest hrange.1 hrange.2)
      case isFalse hout =>
        refine .refused nofun ?_
        intro m hm hrange
        obtain rfl := hvalue.unique hm
        exact h (.text hn (Int.lt_of_not_ge fun hupper => hout ⟨hrange.1, hupper⟩) hrange.2)
    · rw [readCount_of_not_spells control (not_exists.mp hspells)]
      exact hrefused nofun (not_exists.mp hspells)

/-- An integer that strays comes out as another one or not at all, and what is no integer of 64 bits comes out as one. -/
theorem not_exactCount_readCount (control : String) (h : Strays value) :
    ¬ ExactCount control value (readCount control value) := by
  intro hexact
  cases h with
  | @number x hnone =>
    rw [readCount_number] at hexact
    by_cases hrange : ∃ n, x.IsInteger n ∧ (Number.integer n).InRange
    · obtain ⟨n, hn, hrange⟩ := hrange
      have hlarge : Numeral.greatestInt64 < n :=
        Int.lt_of_not_ge fun hupper => hnone n hn ⟨hrange.1, hupper⟩
      have hvalue : (Value.number x).IsInteger n := hn
      have hcount := hexact.unique (.magnitude hvalue hrange)
      rw [hn.integerPart_eq, Number.clampInt64_of_greatest_le (Int.le_of_lt hlarge), Except.ok.injEq, Option.some.injEq] at hcount
      unfold Numeral.greatestInt64 at *
      omega
    · have hcount := hexact.unique (.refused nofun fun n hn hin => hrange ⟨n, hn, hin⟩)
      cases hcount
  | text hn hlarge hword =>
    rw [readCount_text control hn, if_neg fun hrange => Int.not_lt.mpr hrange.2 hlarge] at hexact
    have hleast : Numeral.leastInt64 ≤ Numeral.greatestInt64 := by decide
    have hcount := hexact.unique (.magnitude hn ⟨Int.le_trans hleast (Int.le_of_lt hlarge), hword⟩)
    cases hcount

theorem readCount_le {a : Nat} (h : readCount control value = .ok (some a)) : a ≤ Numeral.leastInt64.natAbs := by
  unfold readCount at h
  split at h
  · cases h
  · split at h
    case h_2 => cases h
    case h_1 n hn =>
      cases h
      cases value with
      | number x =>
        cases hn
        rw [Number.toInt64_eq_clamp]
        exact Number.natAbs_clampInt64_le x.integerPart
      | string s =>
        have hrange := of_decide_eq_true (Option.filter_eq_some_iff.mp hn).2
        unfold Numeral.leastInt64 Numeral.greatestInt64 at *
        omega
      | _ => cases hn

end Controls

namespace Query

open Controls

/-- A limit, or a number of rows to pass over, is exact just when the value does not stray. A number always counts, as the
magnitude of its integer part moved into 64 signed bits; the text of a larger integer does not count. So nothing is above
the magnitude of the least integer of 64 signed bits, and up to this a number and the text of an integer agree. -/
theorem count_exact_iff {part : Controls.Part (Option Nat)} (hpart : part = limiting ∨ part = skipping) {value : Value}
    {before after : Fields} (hd : Entries.Distinct (before ++ (part.name, value) :: after))
    (hothers : ∀ entry ∈ before ++ after, ∃ q, ofFields [entry] none = .ok q) :
    let count := (ofFields (before ++ (part.name, value) :: after) none).map fun q => part.get q.controls
    (ExactCount part.name value count ↔ ¬ Strays value) ∧
    (∀ x, value = .number x → count = .ok (some (Number.clampInt64 x.integerPart).natAbs)) ∧
    (∀ s, value = .string s → Strays value → count = .error (.invalidNumber part.name)) ∧
    (∀ n, value.IsInteger n → Numeral.leastInt64 ≤ n → n ≤ Numeral.greatestInt64 → count = .ok (some n.natAbs)) ∧
    ∀ a, count = .ok (some a) → a ≤ Numeral.leastInt64.natAbs := by
  intro count
  have hcount : count = readCount part.name value := by
    rcases hpart with rfl | rfl
    · exact map_get_ofFields limiting_keeps.reads hd hothers
    · exact map_get_ofFields skipping_keeps.reads hd hothers
  rw [hcount]
  refine ⟨⟨fun hexact hstrays => not_exactCount_readCount part.name hstrays hexact, exactCount_readCount part.name⟩,
    ?_, ?_, fun n => readCount_of_isInteger part.name, fun a => readCount_le⟩
  · rintro x rfl
    exact readCount_number part.name x
  · rintro s rfl hstrays
    cases hstrays with
    | text hn hlarge _ => rw [readCount_text part.name hn, if_neg fun hrange => Int.not_lt.mpr hrange.2 hlarge]

/-- A limit given as text with blanks, between other entries. -/
theorem count_exact_iff_blanks :
    let before : Fields := [("name", .string "Ada")]
    let after : Fields := [("$skip", .ofInt 1)]
    let fields : Fields := before ++ ("$limit", .string " -42\n") :: after
    Entries.Distinct fields ∧ (∀ entry ∈ before ++ after, ∃ q, ofFields [entry] none = .ok q) ∧
      (ofFields fields none).map (fun q => q.controls.limit) = .ok (some 42) := by
  intro before after fields
  have hd : Entries.Distinct (before ++ (limiting.name, .string " -42\n") :: after) := by
    unfold Entries.Distinct
    decide
  have hothers : ∀ entry ∈ before ++ after, ∃ q, ofFields [entry] none = .ok q :=
    List.forall_mem_cons.mpr ⟨⟨_, rfl⟩, List.forall_mem_singleton.mpr ⟨_, rfl⟩⟩
  have hspells : (Value.string " -42\n").IsInteger (-42) := Numeral.spells_iff.mpr (by decide)
  obtain ⟨_, _, _, hcount, _⟩ := count_exact_iff (.inl rfl) hd hothers
  exact ⟨hd, hothers, hcount (-42) hspells (by decide) (by decide)⟩

/-- The greatest integer of 64 bits without a sign is taken for the greatest one with a sign. -/
theorem not_forall_count_exact : ¬ ∀ value : Value,
    ExactCount limitKey value ((ofFields [(limitKey, value)] none).map fun q => q.controls.limit) := by
  intro h
  have hexact : ExactCount limitKey (.ofInt 0xFFFFFFFFFFFFFFFF) (.ok (some 0xFFFFFFFFFFFFFFFF)) :=
    .magnitude (n := 0xFFFFFFFFFFFFFFFF) rfl ⟨by decide, by decide⟩
  have hread : (ofFields [(limitKey, .ofInt 0xFFFFFFFFFFFFFFFF)] none).map (fun q => q.controls.limit)
      = .ok (some 0x7FFFFFFFFFFFFFFF) := by
    decide +kernel
  have hsame := (h (.ofInt 0xFFFFFFFFFFFFFFFF)).unique hexact
  rw [hread] at hsame
  revert hsame
  decide

end Query

end RowStore
