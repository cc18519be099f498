import RowStore.Json.Reader
import RowStore.Proofs.Number.Numeral

/-!
# Numbers in a JSON text

A number ends where a comma or a closing bracket follows, so that it is read the same there as alone. An integer that a
word of 64 bits holds is read as itself.
-/

namespace RowStore

set_option autoImplicit false

namespace Json

/-- What may follow a value: nothing, a comma, or the end of a container. -/
def Ends (rest : List Char) : Prop :=
  ∀ c ∈ rest.head?, c ∈ [',', ']', '\x7d']

theorem ends_nil : Ends [] := nofun

theorem ends_comma (rest : List Char) : Ends (',' :: rest) := by
  rintro _ ⟨⟩
  decide

theorem ends_endArray (rest : List Char) : Ends (']' :: rest) := by
  rintro _ ⟨⟩
  decide

theorem ends_endObject (rest : List Char) : Ends ('\x7d' :: rest) := by
  rintro _ ⟨⟩
  decide

variable {rest : List Char}

/-- What may follow a value is no part of a number. -/
theorem Ends.cases (h : Ends rest) :
    rest = [] ∨ ∃ c more, rest = c :: more ∧ c.isDigit = false ∧ c ∉ ['.', 'e', 'E', '+', '-'] := by
  cases rest with
  | nil => exact .inl rfl
  | cons c more =>
    have hc := h c rfl
    refine .inr ⟨c, more, rfl, ?_⟩
    simp only [List.mem_cons, List.not_mem_nil, or_false] at hc
    rcases hc with rfl | rfl | rfl <;> decide

theorem Ends.span (h : Ends rest) (text : List Char) :
    (text ++ rest).span Char.isDigit = ((text.span Char.isDigit).1, (text.span Char.isDigit).2 ++ rest) := by
  simp only [List.span_eq_takeWhile_dropWhile]
  induction text with
  | nil =>
    rcases h.cases with rfl | ⟨c, more, rfl, hdigit, _⟩
    · rfl
    · simp [hdigit]
  | cons c text ih =>
    cases hdigit : c.isDigit with
    | true =>
      injection ih with htake hdrop
      simp [hdigit, htake, hdrop]
    | false => simp [hdigit]

theorem takeSign_of_unsigned {c : Char} (h : c ∉ ['+', '-']) (more : List Char) :
    Numeral.takeSign (c :: more) = (false, c :: more) := by
  unfold Numeral.takeSign
  split
  · rename_i heq
    cases heq
    exact absurd h (by decide)
  · rename_i heq
    cases heq
    exact absurd h (by decide)
  · rfl

theorem Ends.takeSign (h : Ends rest) (text : List Char) :
    Numeral.takeSign (text ++ rest) = ((Numeral.takeSign text).1, (Numeral.takeSign text).2 ++ rest) := by
  cases text with
  | nil =>
    rcases h.cases with rfl | ⟨c, more, rfl, _, hmarks⟩
    · rfl
    · have hsigns : ['+', '-'] ⊆ ['.', 'e', 'E', '+', '-'] := by decide
      exact takeSign_of_unsigned (fun hm => hmarks (hsigns hm)) more
  | cons c text =>
    by_cases hsign : c ∈ ['+', '-']
    · rw [List.mem_cons, List.mem_singleton] at hsign
      rcases hsign with rfl | rfl <;> rfl
    · rw [List.cons_append, takeSign_of_unsigned hsign, takeSign_of_unsigned hsign]
      rfl

theorem fraction?_of_ne {c : Char} (h : c ≠ '.') (more : List Char) : fraction? (c :: more) = some (none, c :: more) := by
  unfold fraction?
  split
  · rename_i heq
    injection heq with heq
    exact absurd heq h
  · rfl

theorem Ends.fraction? (h : Ends rest) (text : List Char) :
    Json.fraction? (text ++ rest) = (Json.fraction? text).map fun read => (read.1, read.2 ++ rest) := by
  cases text with
  | nil =>
    rcases h.cases with rfl | ⟨c, more, rfl, _, hmarks⟩
    · rfl
    · exact fraction?_of_ne (fun hc => hmarks (hc ▸ List.mem_cons_self)) more
  | cons c text =>
    by_cases hpoint : c = '.'
    · subst hpoint
      rw [List.cons_append, Json.fraction?, Json.fraction?, h.span]
      dsimp only
      split <;> rfl
    · rw [List.cons_append, fraction?_of_ne hpoint, fraction?_of_ne hpoint]
      rfl

theorem Ends.exponent? (h : Ends rest) (text : List Char) :
    Json.exponent? (text ++ rest) = (Json.exponent? text).map fun read => (read.1, read.2 ++ rest) := by
  cases text with
  | nil =>
    rcases h.cases with rfl | ⟨c, more, rfl, _, hmarks⟩
    · rfl
    · have hletter : ¬ (c = 'e' ∨ c = 'E') := by
        rintro (rfl | rfl) <;> exact hmarks (by decide)
      rw [List.nil_append, Json.exponent?, if_neg hletter]
      rfl
  | cons c text =>
    rw [List.cons_append, Json.exponent?, Json.exponent?]
    split
    · rw [h.takeSign]
      dsimp only
      rw [h.span, Option.map_map]
      rfl
    · rfl

/-- The number that a text starts with, after its sign. -/
def unsigned? (negative : Bool) (body : List Char) : Option (Number × List Char) := do
  let (whole, afterWhole) := body.span Char.isDigit
  if whole = [] ∨ (whole.head? = some '0' ∧ 1 < whole.length) then none
  let (fraction, afterFraction) ← fraction? afterWhole
  let (exponent, rest) ← exponent? afterFraction
  let n ← match fraction, exponent with
    | none, none => wholeOf? negative whole
    | _, _ => (realOf? negative whole (fraction.getD []) (exponent.getD 0)).map .real
  pure (n, rest)

theorem number?_minus (body : List Char) : number? ('-' :: body) = unsigned? true body :=
  rfl

theorem number?_of_ne {text : List Char} (h : ∀ c ∈ text.head?, c ≠ '-') : number? text = unsigned? false text := by
  cases text with
  | nil => rfl
  | cons c text =>
    unfold number? unsigned?
    split
    rename_i heq
    split at heq
    · rename_i hminus
      injection hminus with hc
      exact absurd hc (h c rfl)
    · cases heq
      rfl

theorem Ends.unsigned? (h : Ends rest) (negative : Bool) (body : List Char) :
    Json.unsigned? negative (body ++ rest)
      = (Json.unsigned? negative body).map fun read => (read.1, read.2 ++ rest) := by
  unfold Json.unsigned?
  rw [h.span]
  dsimp only
  split
  · rfl
  · rw [h.fraction?]
    cases Json.fraction? (body.span Char.isDigit).2 with
    | none => rfl
    | some fraction =>
      rw [Option.map_some, Option.bind_eq_bind, Option.bind_some, Option.bind_eq_bind, Option.bind_some, h.exponent?]
      cases Json.exponent? fraction.2 with
      | none => rfl
      | some exponent =>
        simp only [Option.map_some, Option.bind_eq_bind, Option.bind_some]
        cases fraction.1 <;> cases exponent.1 <;> rw [Option.map_bind] <;> rfl

/-- Where a number ends, it is read as if nothing followed. -/
theorem Ends.number? (h : Ends rest) (text : List Char) :
    Json.number? (text ++ rest) = (Json.number? text).map fun read => (read.1, read.2 ++ rest) := by
  by_cases hminus : text.head? = some '-'
  · obtain ⟨body, rfl⟩ := List.head?_eq_some_iff.mp hminus
    rw [List.cons_append, number?_minus, number?_minus, h.unsigned?]
  · have hne : ∀ c ∈ (text ++ rest).head?, c ≠ '-' := by
      rintro c hc rfl
      cases text with
      | cons c text => exact hminus hc
      | nil =>
        rcases h.cases with rfl | ⟨c, more, rfl, _, hmarks⟩
        · cases hc
        · cases hc
          exact hmarks (by decide)
    rw [number?_of_ne hne, h.unsigned?, number?_of_ne fun c hc hm => hminus (hm ▸ hc)]

/-- Digits of a number above zero start with no zero. -/
theorem head?_toDigits_ne_zero {n : Nat} (h : 0 < n) : (Nat.toDigits 10 n).head? ≠ some '0' := by
  induction n using Nat.strongRecOn with
  | ind n ih =>
    by_cases hlt : n < 10
    · have hdigit : ∀ n < 10, 0 < n → n.digitChar ≠ '0' := by decide
      rw [Nat.toDigits_of_lt_base hlt, List.head?_cons, Ne, Option.some_inj]
      exact hdigit n hlt h
    · have hle : 10 ≤ n := Nat.le_of_not_lt hlt
      have hupper := ih (n / 10) (by omega) (by omega)
      rw [Nat.toDigits_of_base_le (by decide) hle]
      cases hdigits : Nat.toDigits 10 (n / 10) with
      | nil => exact absurd hdigits Nat.toDigits_ne_nil
      | cons first more => rwa [hdigits] at hupper

/-- The digits of a number are no more than they have to be. -/
theorem unsigned?_toDigits (negative : Bool) (n : Nat) :
    unsigned? negative (Nat.toDigits 10 n) = (wholeOf? negative (Nat.toDigits 10 n)).map fun read => (read, []) := by
  have hspan : (Nat.toDigits 10 n).span Char.isDigit = (Nat.toDigits 10 n, []) := by
    have hdigits := Numeral.span_append [] (fun c hc => Numeral.isDigit_toDigits (a := n) hc) (by simp)
    rwa [List.append_nil] at hdigits
  have hwhole : ¬ (Nat.toDigits 10 n = [] ∨ ((Nat.toDigits 10 n).head? = some '0' ∧ 1 < (Nat.toDigits 10 n).length)) := by
    rintro (hnil | ⟨hzero, hlength⟩)
    · exact Nat.toDigits_ne_nil hnil
    · rcases Nat.eq_zero_or_pos n with rfl | hpos
      · exact absurd hlength (by decide)
      · exact head?_toDigits_ne_zero hpos hzero
  rw [unsigned?, hspan]
  dsimp only
  rw [if_neg hwhole]
  cases wholeOf? negative (Nat.toDigits 10 n) <;> rfl

/-- An integer that a word holds is read from its text as itself. -/
theorem number?_integerText {n : Int} (hlower : Numeral.leastInt64 ≤ n) (hupper : n < Numeral.wordBound) :
    number? (Number.integerText n) = some (.integer n, []) := by
  by_cases hneg : n < 0
  · have hpos : 0 < n.natAbs := by omega
    have hcast : -(n.natAbs : Int) = n := by omega
    rw [Number.integerText, if_pos hneg, List.singleton_append, number?_minus, unsigned?_toDigits, wholeOf?,
      Numeral.ofDigits_toDigits, if_pos rfl, hcast, if_pos ⟨hpos, hlower⟩]
    rfl
  · have hlt : n.natAbs < Numeral.wordBound := by omega
    have hcast : (n.natAbs : Int) = n := by omega
    have hunsigned : ∀ c ∈ (Nat.toDigits 10 n.natAbs).head?, c ≠ '-' := by
      rintro c hc rfl
      exact absurd (Numeral.isDigit_toDigits (List.mem_of_mem_head? hc)) (by decide)
    rw [Number.integerText, if_neg hneg, List.nil_append, number?_of_ne hunsigned, unsigned?_toDigits, wholeOf?,
      Numeral.ofDigits_toDigits, if_neg Bool.false_ne_true, if_pos hlt, hcast]
    rfl

end Json

end RowStore
