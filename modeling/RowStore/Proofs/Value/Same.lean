import RowStore.Proofs.Number.Integer

/-!
# Equality of values

Values are equal by their numeric readings or else by their texts, which does not make an equivalence of it: a
boolean equals a number and the text that spells the boolean. Among integers of at most 53 bits and values without a
numeric reading there is no such ambiguity, neither between two of them nor for an integer or a text that is looked for
among them.
-/

namespace RowStore

set_option autoImplicit false

namespace Value

variable {a b k l id : Value}

theorem same_of_numeric {x y : Binary64} (ha : a.numeric? = some x) (hb : b.numeric? = some y) :
    a.same b = x.same y := by
  rw [same, ha, hb]

theorem same_of_numeric_none (h : a.numeric? = none ∨ b.numeric? = none) : a.same b = (a.text == b.text) := by
  unfold same
  split
  · rename_i ha hb
    rcases h with h | h
    · rw [h] at ha; cases ha
    · rw [h] at hb; cases hb
  · rfl

theorem same_comm (a b : Value) : a.same b = b.same a := by
  cases ha : a.numeric? with
  | none => rw [same_of_numeric_none (.inl ha), same_of_numeric_none (.inr ha), Bool.beq_comm]
  | some x =>
    cases hb : b.numeric? with
    | none => rw [same_of_numeric_none (.inr hb), same_of_numeric_none (.inl hb), Bool.beq_comm]
    | some y => rw [same_of_numeric ha hb, same_of_numeric hb ha, Binary64.same, Binary64.same, Bool.beq_comm]

theorem same_self (a : Value) : a.same a = true := by
  cases ha : a.numeric? with
  | none => rw [same_of_numeric_none (.inl ha), beq_self_eq_true]
  | some x => rw [same_of_numeric ha ha, Binary64.same, beq_self_eq_true]

theorem numeric?_ofInt (n : Int) : (ofInt n).numeric? = some (Binary64.ofInt n) := rfl

/-- An integer of at most 53 bits, or a value without a numeric reading. -/
def Plain (value : Value) : Prop :=
  value.numeric? = none ∨ ∃ n : Int, value = ofInt n ∧ n.natAbs ≤ Binary64.exactBound

theorem plain_ofInt {n : Int} (h : n.natAbs ≤ Binary64.exactBound) : (ofInt n).Plain :=
  .inr ⟨n, rfl, h⟩

theorem exactBound_lt_wordBound : Binary64.exactBound < Numeral.wordBound := by decide

theorem decimal?_of_bracket {c : Char} {rest : List Char} (hc : c = '[' ∨ c = '\x7b') :
    Numeral.decimal? (c :: rest) = none := by
  have hsign : Numeral.takeSign (c :: rest) = (false, c :: rest) := by
    rcases hc with rfl | rfl <;> rfl
  have hspan : (c :: rest).span Char.isDigit = ([], c :: rest) := by
    rw [List.span_eq_takeWhile_dropWhile]
    rcases hc with rfl | rfl <;> rfl
  have hfraction : Numeral.takeFraction (c :: rest) = ([], c :: rest) := by
    rcases hc with rfl | rfl <;> rfl
  rw [Numeral.decimal?, hsign]
  simp only [hspan, hfraction, and_self, if_true]

theorem numeric?_bracketed {opening closing : Char} {inner : List Char} (hopening : opening = '[' ∨ opening = '\x7b')
    (hclosing : closing = ']' ∨ closing = '\x7d') :
    (string (String.ofList (opening :: inner ++ [closing]))).numeric? = none := by
  have hfirst : Text.isBlank opening = false := by
    rcases hopening with rfl | rfl <;> decide
  have hlast : Text.isBlank closing = false := by
    rcases hclosing with rfl | rfl <;> decide
  have htrim : Text.trim (opening :: inner ++ [closing]) = opening :: inner ++ [closing] := by
    apply Text.trim_eq
    · intro c hc
      cases hc
      exact hfirst
    · intro c hc
      rw [List.getLast?_concat] at hc
      cases hc
      exact hlast
  rw [numeric?, String.toList_ofList, htrim, Binary64.ofText?, List.cons_append, decimal?_of_bracket hopening]
  rfl

theorem numeric?_text_of_none (hk : k.numeric? = none) (hnull : k ≠ .null) : (string k.text).numeric? = none := by
  cases k with
  | null => exact absurd rfl hnull
  | bool b => cases b <;> cases hk
  | number n => cases hk
  | string s => exact hk
  | array items =>
    rw [text, Json.render, Json.chars]
    · exact numeric?_bracketed (.inl rfl) (.inl rfl)
    · exact nofun
  | object fields =>
    rw [text, Json.render, Json.chars]
    · exact numeric?_bracketed (.inr rfl) (.inr rfl)
    · exact nofun

theorem same_ofInt_of_none {n : Int} (hk : k.numeric? = none) (hnull : k ≠ .null)
    (hn : n.natAbs < Numeral.wordBound) : k.same (ofInt n) = false := by
  rw [same_of_numeric_none (.inl hk), beq_eq_false_iff_ne]
  intro htext
  have hnone := numeric?_text_of_none hk hnull
  rw [htext, text_ofInt, numeric?_integerText hn] at hnone
  cases hnone

/-- A plain value equals an integer of at most 53 bits only if it is that integer. -/
theorem same_ofInt_iff {n : Int} (hk : k.Plain) (hnull : k ≠ .null) (hn : n.natAbs ≤ Binary64.exactBound) :
    k.same (ofInt n) = true ↔ k = ofInt n := by
  rcases hk with hk | ⟨m, rfl, hm⟩
  · rw [same_ofInt_of_none hk hnull (Nat.lt_of_le_of_lt hn exactBound_lt_wordBound)]
    constructor
    · exact nofun
    · intro he
      rw [he] at hk
      cases hk
  · rw [same_of_numeric (numeric?_ofInt m) (numeric?_ofInt n), Binary64.same_ofInt_iff hm hn]
    constructor
    · intro he
      rw [he]
    · intro he
      cases he
      rfl

/-- What is looked for by: an integer of at most 53 bits, or a text. -/
def Locates (id : Value) : Prop :=
  (∃ n : Int, id = ofInt n ∧ n.natAbs ≤ Binary64.exactBound) ∨ ∃ s, id = .string s

theorem same_of_same_string {s : String} (hk : k.Plain) (hl : l.Plain) (hknull : k ≠ .null) (hlnull : l ≠ .null)
    (hks : k.same (.string s) = true) (hls : l.same (.string s) = true) : k.same l = true := by
  cases hs : (string s).numeric? with
  | some x =>
    -- A plain value that equals a numeral has to be an integer: the text of any other is no numeral.
    have hint : ∀ {v : Value}, v.Plain → v ≠ .null → v.same (.string s) = true →
        ∃ n : Int, v = ofInt n ∧ (Binary64.ofInt n).same x = true := by
      intro v hv hvnull hvs
      rcases hv with hv | ⟨n, rfl, _⟩
      · rw [same_of_numeric_none (.inl hv), beq_iff_eq] at hvs
        have hnone := numeric?_text_of_none hv hvnull
        rw [hvs, text, hs] at hnone
        cases hnone
      · rw [same_of_numeric (numeric?_ofInt n) hs] at hvs
        exact ⟨n, rfl, hvs⟩
    obtain ⟨m, rfl, hm⟩ := hint hk hknull hks
    obtain ⟨n, rfl, hn⟩ := hint hl hlnull hls
    rw [Binary64.same, beq_iff_eq] at hm hn
    rw [same_of_numeric (numeric?_ofInt m) (numeric?_ofInt n), Binary64.same, beq_iff_eq, hm, hn]
  | none =>
    rw [same_of_numeric_none (.inr hs), beq_iff_eq] at hks hls
    have hboth : k.numeric? = none ∨ l.numeric? = none := by
      rcases hk with hk | ⟨n, rfl, hn⟩
      · exact .inl hk
      · have hword := Nat.lt_of_le_of_lt hn exactBound_lt_wordBound
        rw [text_ofInt, text] at hks
        rw [← hks, numeric?_integerText hword] at hs
        cases hs
    rw [same_of_numeric_none hboth, beq_iff_eq, hks, hls]

theorem same_of_same (hk : k.Plain) (hl : l.Plain) (hknull : k ≠ .null) (hlnull : l ≠ .null) (hid : id.Locates)
    (hks : k.same id = true) (hls : l.same id = true) : k.same l = true := by
  rcases hid with ⟨n, rfl, hn⟩ | ⟨s, rfl⟩
  · rw [same_ofInt_iff hk hknull hn] at hks
    rw [same_ofInt_iff hl hlnull hn] at hls
    rw [hks, hls, same_ofInt_iff (plain_ofInt hn) nofun hn]
  · exact same_of_same_string hk hl hknull hlnull hks hls

end Value

end RowStore
