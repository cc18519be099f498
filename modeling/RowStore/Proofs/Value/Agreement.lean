import RowStore.Proofs.Number.InRange
import RowStore.Proofs.Value.Preorder
import RowStore.Proofs.Value.Same

/-!
# Where equality and order agree

Values are equal if they stand at one place of the order. Beyond that, equality by text takes a boolean for the text that
writes it, though the boolean is a number to the order and the text is none. This is the only pair on which the two
differ, and all that keeps equality from being transitive.
-/

namespace RowStore

set_option autoImplicit false

namespace Value

variable {a b c : Value}

/-- A value in the sense of JSON: its numbers are integers of 64 bits or finite doubles. -/
def InRange : Value → Prop
  | number n => n.InRange
  | _ => True

/-- A text is the text of a boolean. -/
def Writes (a b : Value) : Prop :=
  ∃ flag : Bool, a = string (bool flag).text ∧ b = bool flag

theorem Writes.numeric?_left (h : a.Writes b) : a.numeric? = none := by
  obtain ⟨flag, rfl, _⟩ := h
  cases flag <;> decide +kernel

theorem Writes.numeric?_right (h : a.Writes b) : b.numeric? ≠ none := by
  obtain ⟨flag, _, rfl⟩ := h
  cases flag <;> nofun

theorem Writes.same (h : a.Writes b) : a.same b = true := by
  rw [same_of_numeric_none (.inl h.numeric?_left), beq_iff_eq]
  obtain ⟨flag, rfl, rfl⟩ := h
  rfl

theorem Writes.order_eq (h : a.Writes b) : a.order b = .gt := by
  obtain ⟨flag, rfl, rfl⟩ := h
  cases flag <;> decide +kernel

theorem Writes.order_eq_symm (h : a.Writes b) : b.order a = .lt := by
  rw [order_swap, h.order_eq]
  rfl

/-- Of the values without a numeric reading, only text has the text of a boolean: that of the others starts with a
bracket. -/
theorem eq_string_of_text_eq {flag : Bool} (hb : b.numeric? = none) (hnull : b ≠ .null)
    (htext : b.text = (bool flag).text) : b = string (bool flag).text := by
  have hletter : ∀ c ∈ (bool flag).text.toList.head?, c ≠ '[' ∧ c ≠ '\x7b' := by
    intro c hc
    cases flag <;> cases hc <;> decide
  cases b with
  | null => exact absurd rfl hnull
  | bool other => cases other <;> cases hb
  | number n => cases hb
  | string s => rw [← htext, text]
  | array items =>
    rw [← htext, text, Json.render, Json.chars, String.toList_ofList] at hletter
    · exact absurd rfl (hletter '[' rfl).1
    · intro fields hne
      cases hne
  | object fields =>
    rw [← htext, text, Json.render, Json.chars, String.toList_ofList] at hletter
    · exact absurd rfl (hletter '\x7b' rfl).2
    · intro s hne
      cases hne

/-- A value with a numeric reading equals one without only if it is a boolean and the other is its text. -/
theorem same_iff_of_none {x : Binary64} (ha : a.InRange) (hx : a.numeric? = some x) (hb : b.numeric? = none)
    (hnull : b ≠ .null) : a.same b = true ↔ b.Writes a := by
  have htext := numeric?_text_of_none hb hnull
  rw [same_of_numeric_none (.inr hb), beq_iff_eq]
  constructor
  · intro heq
    cases a with
    | null | array _ | object _ => cases hx
    | number n =>
      rw [← heq, numeric?_text ha] at htext
      cases htext
    | string s =>
      rw [← heq, text, hx] at htext
      cases htext
    | bool flag => exact ⟨flag, eq_string_of_text_eq hb hnull heq.symm, rfl⟩
  · rintro ⟨flag, rfl, rfl⟩
    rfl

/-- Equality is to be at the same place of the order, or to be a boolean and its text. -/
theorem same_iff (ha : a.InRange) (hb : b.InRange) (hanull : a ≠ .null) (hbnull : b ≠ .null) :
    a.same b = true ↔ a.order b = .eq ∨ a.Writes b ∨ b.Writes a := by
  have horder := order_of_not_null ((isNull_eq_false_iff a).mpr hanull) ((isNull_eq_false_iff b).mpr hbnull)
  unfold orderPresent at horder
  cases hx : a.numeric? with
  | some x =>
    have hleft : ¬ a.Writes b := fun h => by
      have hnone := h.numeric?_left
      rw [hx] at hnone
      cases hnone
    cases hy : b.numeric? with
    | some y =>
      have hright : ¬ b.Writes a := fun h => by
        have hnone := h.numeric?_left
        rw [hy] at hnone
        cases hnone
      rw [hx, hy] at horder
      dsimp only at horder
      rw [horder, same_of_numeric hx hy, Binary64.same, beq_iff_eq, Binary64.order, Std.compare_eq_iff_eq]
      simp only [hleft, hright, or_false]
    | none =>
      rw [hx, hy] at horder
      rw [horder, same_iff_of_none ha hx hy hbnull]
      simp only [reduceCtorEq, hleft, false_or]
  | none =>
    have hright : ¬ b.Writes a := fun h => h.numeric?_right hx
    cases hy : b.numeric? with
    | some y =>
      rw [hx, hy] at horder
      rw [horder, same_comm, same_iff_of_none hb hy hx hanull]
      simp only [reduceCtorEq, hright, false_or, or_false]
    | none =>
      have hleft : ¬ a.Writes b := fun h => h.numeric?_right hy
      rw [hx, hy] at horder
      dsimp only at horder
      rw [horder, same_of_numeric_none (.inl hx), beq_iff_eq, orderText, Std.compare_eq_iff_eq]
      simp only [hleft, hright, or_false]

theorem Writes.not_writes (h : a.Writes b) (c : Value) : ¬ b.Writes c := by
  obtain ⟨flag, _, rfl⟩ := h
  rintro ⟨other, htext, _⟩
  cases htext

theorem Writes.left_unique (h : a.Writes c) (h' : b.Writes c) : a = b := by
  obtain ⟨flag, rfl, rfl⟩ := h
  obtain ⟨other, rfl, hflag⟩ := h'
  cases hflag
  rfl

theorem Writes.right_unique (h : a.Writes b) (h' : a.Writes c) : b = c := by
  obtain ⟨flag, rfl, rfl⟩ := h
  obtain ⟨other, htext, rfl⟩ := h'
  cases flag <;> cases other
  · rfl
  · exact absurd htext (by decide +kernel)
  · exact absurd htext (by decide +kernel)
  · rfl

theorem Writes.eq_of_order_eq (h : a.Writes b) (hnull : c ≠ .null) (heq : a.order c = .eq) : c = a := by
  have hnone := h.numeric?_left
  obtain ⟨flag, rfl, _⟩ := h
  rw [order_of_not_null rfl ((isNull_eq_false_iff c).mpr hnull), orderPresent, hnone] at heq
  cases hy : c.numeric? with
  | some y =>
    rw [hy] at heq
    cases heq
  | none =>
    rw [hy] at heq
    dsimp only [orderText] at heq
    exact eq_string_of_text_eq hy hnull (Std.LawfulEqCmp.eq_of_compare heq).symm

theorem Writes.same_iff (h : a.Writes b) (hc : c.InRange) (hnull : c ≠ .null) : a.same c = true ↔ c = a ∨ c = b := by
  constructor
  · intro hsame
    have ha : a.InRange ∧ a ≠ .null := by
      obtain ⟨flag, rfl, _⟩ := h
      exact ⟨trivial, nofun⟩
    rcases (Value.same_iff ha.1 hc ha.2 hnull).mp hsame with heq | hwrites | hwrites
    · exact .inl (h.eq_of_order_eq hnull heq)
    · exact .inr (hwrites.right_unique h)
    · exact absurd h (hwrites.not_writes b)
  · rintro (rfl | rfl)
    · exact same_self c
    · exact h.same

/-- Equality passes through every value but a boolean: from the text of the boolean it reaches no other value. -/
theorem same_trans_iff (ha : a.InRange) (hb : b.InRange) (hc : c.InRange) (hanull : a ≠ .null) (hbnull : b ≠ .null)
    (hcnull : c ≠ .null) (hab : a.same b = true) (hbc : b.same c = true) :
    a.same c = true ↔ (a.Writes b → c = b ∨ c.Writes b) ∧ (c.Writes b → a = b ∨ a.Writes b) := by
  by_cases hleft : a.Writes b
  · rw [hleft.same_iff hc hcnull]
    constructor
    · intro hsame
      refine ⟨fun _ => ?_, fun _ => .inr hleft⟩
      rcases hsame with rfl | rfl
      · exact .inr hleft
      · exact .inl rfl
    · rintro ⟨hreach, _⟩
      rcases hreach hleft with rfl | hwrites
      · exact .inr rfl
      · exact .inl (hwrites.left_unique hleft)
  · by_cases hright : c.Writes b
    · rw [same_comm, hright.same_iff ha hanull]
      constructor
      · rintro (rfl | rfl)
        · exact absurd hright hleft
        · exact ⟨fun h => absurd h hleft, fun _ => .inl rfl⟩
      · rintro ⟨_, hreach⟩
        rcases hreach hright with rfl | hwrites
        · exact .inr rfl
        · exact absurd hwrites hleft
    · have hsame : a.same c = true := by
        rcases (same_iff ha hb hanull hbnull).mp hab with heq | hwrites | hwrites
        · rcases (same_iff hb hc hbnull hcnull).mp hbc with heq' | hwrites' | hwrites'
          · exact (same_iff ha hc hanull hcnull).mpr (.inl ((order_congr heq c).1.trans heq'))
          · have hba : b.order a = .eq := by
              rw [order_swap, heq]
              rfl
            rwa [hwrites'.eq_of_order_eq hanull hba]
          · exact absurd hwrites' hright
        · exact absurd hwrites hleft
        · rcases (hwrites.same_iff hc hcnull).mp hbc with rfl | rfl
          · exact hab
          · exact same_self c
      exact iff_of_true hsame ⟨fun h => absurd h hleft, fun h => absurd h hright⟩

theorem holds_of_not_null (hanull : a ≠ .null) (hbnull : b ≠ .null) :
    Comparison.equal.holds a b = a.same b ∧
      Comparison.less.holds a b = (a.order b == .lt) ∧ Comparison.greater.holds a b = (a.order b == .gt) ∧
      Comparison.atMost.holds a b = (a.order b != .gt) ∧ Comparison.atLeast.holds a b = (a.order b != .lt) := by
  have ha := (isNull_eq_false_iff a).mpr hanull
  have hb := (isNull_eq_false_iff b).mpr hbnull
  simp [Comparison.holds, Comparison.relates, ha, hb]

/-- Equality is the same place in the order but for a boolean and the text that writes it. On such a pair, and on no
other, two of the three comparisons hold at once, and one of the two that include equality fails although the values are
equal: at most, if the cell is the text, and at least, if it is the boolean. Equality is reflexive and symmetric, and it is
transitive unless it passes through a boolean from its text to some other value. -/
theorem same_agrees_with_order (ha : a.InRange) (hb : b.InRange) (hc : c.InRange) (hanull : a ≠ .null)
    (hbnull : b ≠ .null) (hcnull : c ≠ .null) :
    (a.same b = true ↔ a.order b = .eq ∨ a.Writes b ∨ b.Writes a) ∧
    ([Comparison.less, .equal, .greater].countP (·.holds a b) = 1 ↔ ¬ (a.Writes b ∨ b.Writes a)) ∧
    (Comparison.atMost.holds a b = (Comparison.less.holds a b || Comparison.equal.holds a b) ↔ ¬ a.Writes b) ∧
    (Comparison.atLeast.holds a b = (Comparison.greater.holds a b || Comparison.equal.holds a b) ↔ ¬ b.Writes a) ∧
    a.same a = true ∧ b.same a = a.same b ∧
    (a.same b = true → b.same c = true →
      (a.same c = true ↔ (a.Writes b → c = b ∨ c.Writes b) ∧ (c.Writes b → a = b ∨ a.Writes b))) := by
  have hsame := same_iff ha hb hanull hbnull
  obtain ⟨hequal, hless, hgreater, hatMost, hatLeast⟩ := holds_of_not_null hanull hbnull
  refine ⟨hsame, ?_, ?_, ?_, same_self a, same_comm b a, same_trans_iff ha hb hc hanull hbnull hcnull⟩
  all_goals
    simp only [List.countP_cons, List.countP_nil, hequal, hless, hgreater, hatMost, hatLeast]
    by_cases hleft : a.Writes b
    · have hright := hleft.not_writes a
      simp [hleft, hright, hleft.same, hleft.order_eq]
    · by_cases hright : b.Writes a
      · simp [hleft, hright, hright.order_eq_symm, same_comm a b, hright.same]
      · simp only [hleft, hright, or_false] at hsame ⊢
        have hflag : a.same b = (a.order b == .eq) := by
          rw [Bool.eq_iff_iff, hsame, beq_iff_eq]
        rw [hflag]
        cases a.order b <;> decide

theorem same_agrees_with_order_true :
    (string "true").same (bool true) = true ∧ (bool true).same (ofInt 1) = true ∧
      ¬ (string "true").same (ofInt 1) = true := by
  -- The number is in range because it is written in a JSON text.
  have hone : Json.number? ['1'] = some (.integer 1, []) := by decide +kernel
  obtain ⟨hsame, _, _, _, _, _, htrans⟩ := same_agrees_with_order (a := string "true") (b := bool true) (c := ofInt 1)
    trivial trivial (Json.number?_inRange hone) nofun nofun nofun
  have hab := hsame.mpr (.inr (.inl ⟨true, rfl, rfl⟩))
  have hbc : (bool true).same (ofInt 1) = true := by decide +kernel
  refine ⟨hab, hbc, ?_⟩
  rw [htrans hab hbc]
  rintro ⟨hreach, _⟩
  rcases hreach ⟨true, rfl, rfl⟩ with h | ⟨flag, h, _⟩ <;> cases h

/-- True is equal to its text, though it is before it, and equal to one, which its text is not. -/
theorem not_forall_same_iff_order :
    ¬ (∀ a b : Value, a ≠ .null → b ≠ .null → (a.same b = true ↔ a.order b = .eq)) ∧
      ¬ (∀ a b c : Value, a ≠ .null → b ≠ .null → c ≠ .null → a.same b = true → b.same c = true → a.same c = true) := by
  have htext : (string "true").same (bool true) = true := by decide +kernel
  have hone : (bool true).same (ofInt 1) = true := by decide +kernel
  constructor
  · intro h
    have horder := (h (string "true") (bool true) nofun nofun).mp htext
    revert horder
    decide +kernel
  · intro h
    have hsame := h (string "true") (bool true) (ofInt 1) nofun nofun nofun htext hone
    revert hsame
    decide +kernel

end Value

end RowStore
