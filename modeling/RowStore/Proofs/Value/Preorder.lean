import Mathlib.Order.Compare
import RowStore.Clause.Holds

/-!
# The order of values

Values stand in one line: null, then what has a numeric reading, by this reading, and then the rest, by text. So their
order can be followed from one value to the next, and values that it does not tell apart stand at the same place of it,
even if they are a number and a text.
-/

namespace RowStore.Value

set_option autoImplicit false

/-- The place of a value: the part of the line, the numeric reading in the middle part, and the text in the last one. -/
def place (value : Value) : Nat × Int × String :=
  if value.isNull = true then (0, 0, "")
  else match value.numeric? with
    | some x => (1, x.signedTicks, "")
    | none => (2, 0, value.text)

theorem place_of_null {value : Value} (h : value.isNull = true) : value.place = (0, 0, "") := by
  rw [place, if_pos h]

/-- A value that is not null has the place of its number, or is placed by its text. -/
theorem place_cases {value : Value} (h : value.isNull = false) :
    (∃ x, value.numeric? = some x ∧ value.place = (1, x.signedTicks, "")) ∨
      value.numeric? = none ∧ value.place = (2, 0, value.text) := by
  rw [place, h]
  cases value.numeric? with
  | some x => exact .inl ⟨x, rfl, rfl⟩
  | none => exact .inr ⟨rfl, rfl⟩

theorem order_eq_place (a b : Value) :
    a.order b = compareLex (compareOn fun v => v.place.1)
      (compareLex (compareOn fun v => v.place.2.1) (compareOn fun v => v.place.2.2)) a b := by
  simp only [compareLex, compareOn]
  cases ha : a.isNull with
  | true =>
    cases hb : b.isNull with
    | true =>
      rw [order, ha, hb, place_of_null ha, place_of_null hb]
      rfl
    | false =>
      rw [order, ha, hb, place_of_null ha]
      rcases place_cases hb with ⟨y, _, hplace⟩ | ⟨_, hplace⟩
      · rw [hplace]
        rfl
      · rw [hplace]
        rfl
  | false =>
    cases hb : b.isNull with
    | true =>
      rw [order, ha, hb, place_of_null hb]
      rcases place_cases ha with ⟨x, _, hplace⟩ | ⟨_, hplace⟩
      · rw [hplace]
        rfl
      · rw [hplace]
        rfl
    | false =>
      rw [order, ha, hb]
      change a.orderPresent b = _
      rw [orderPresent]
      rcases place_cases ha with ⟨x, hx, hplace⟩ | ⟨hx, hplace⟩
      · rcases place_cases hb with ⟨y, hy, hplace'⟩ | ⟨hy, hplace'⟩
        · rw [hx, hy, hplace, hplace']
          change compare x.signedTicks y.signedTicks = (compare x.signedTicks y.signedTicks).then .eq
          rw [Ordering.then_eq]
        · rw [hx, hy, hplace, hplace']
          rfl
      · rcases place_cases hb with ⟨y, hy, hplace'⟩ | ⟨hy, hplace'⟩
        · rw [hx, hy, hplace, hplace']
          rfl
        · rw [hx, hy, hplace, hplace']
          rfl

instance : Std.TransCmp order := by
  rw [funext fun a => funext fun b => order_eq_place a b]
  infer_instance

theorem order_swap (a b : Value) : b.order a = (a.order b).swap :=
  Std.OrientedCmp.eq_swap

/-- The values that stand for a number: numbers, booleans, and the texts that spell a number in range between blanks. -/
inductive StandsFor : Value → Binary64 → Prop where
  | number (n : Number) : StandsFor (.number n) n.toBinary64
  | yes : StandsFor (.bool true) .one
  | no : StandsFor (.bool false) .zero
  | numeral {s : String} {d : Decimal} {x : Binary64} (hd : Numeral.decimal? (Text.trim s.toList) = some d)
      (hx : d.toBinary64? = some x) : StandsFor (.string s) x

theorem numeric?_eq_some_iff {value : Value} {x : Binary64} : value.numeric? = some x ↔ value.StandsFor x := by
  constructor
  · intro h
    cases value with
    | number n =>
      cases h
      exact .number n
    | bool b =>
      cases b <;> cases h
      · exact .no
      · exact .yes
    | string s =>
      obtain ⟨d, hd, hx⟩ := Option.bind_eq_some_iff.mp h
      exact .numeral hd hx
    | null | array _ | object _ => cases h
  · rintro (n | _ | _ | ⟨hd, hx⟩)
    · rfl
    · rfl
    · rfl
    · exact Option.bind_eq_some_iff.mpr ⟨_, hd, hx⟩

theorem numeric?_eq_none_iff {value : Value} : value.numeric? = none ↔ ∀ x, ¬ value.StandsFor x := by
  simp only [Option.eq_none_iff_forall_ne_some, ne_eq, numeric?_eq_some_iff]

theorem StandsFor.isNull {value : Value} {x : Binary64} (h : value.StandsFor x) : value.isNull = false := by
  cases h <;> rfl

theorem order_of_not_null {a b : Value} (ha : a.isNull = false) (hb : b.isNull = false) :
    a.order b = a.orderPresent b := by
  rw [order, ha, hb]

theorem isNull_eq_of_order_eq {a b : Value} (h : a.order b = .eq) : a.isNull = b.isNull := by
  unfold order at h
  split at h
  case h_1 ha hb => rw [ha, hb]
  case h_2 => cases h
  case h_3 => cases h
  case h_4 ha hb => rw [ha, hb]

/-- Values at one place are before, at and after the same values. -/
theorem order_congr {a b : Value} (h : a.order b = .eq) (c : Value) : a.order c = b.order c ∧ c.order a = c.order b :=
  ⟨Std.TransCmp.congr_left h, Std.TransCmp.congr_right h⟩

/-- A comparison by order does not tell values at one place apart, neither as cells nor as operands. -/
theorem holds_congr {op : Comparison} {a b : Value} (h : a.order b = .eq) (hequal : op ≠ .equal) (hlike : op ≠ .like)
    (c : Value) : op.holds a c = op.holds b c ∧ op.holds c a = op.holds c b := by
  obtain ⟨hleft, hright⟩ := order_congr h c
  have hnull := isNull_eq_of_order_eq h
  cases op with
  | equal => exact absurd rfl hequal
  | like => exact absurd rfl hlike
  | less | atMost | greater | atLeast => simp [Comparison.holds, Comparison.relates, hleft, hright, hnull]

/-- The order of values is a total preorder: turned round it is the reverse, nothing is before or after itself, what is not
after a value is not after any that this one is not after, and values that it does not tell apart compare alike with every
third one. Null comes first, then all that stands for a number, by this number, and then the rest, by text. -/
theorem order_total_preorder (a b c : Value) :
    (b.order a = (a.order b).swap ∧ a.order a = .eq ∧
      (a.order b ≠ .gt → b.order c ≠ .gt → a.order c ≠ .gt)) ∧
    (a.order b = .eq → a.order c = b.order c ∧ c.order a = c.order b ∧
      ∀ op : Comparison, op ≠ .equal → op ≠ .like → op.holds a c = op.holds b c ∧ op.holds c a = op.holds c b) ∧
    (a = .null → a.order b = if b = .null then .eq else .lt) ∧
    (∀ x y, a.StandsFor x → b.StandsFor y → a.order b = x.order y) ∧
    (∀ x, a.StandsFor x → b ≠ .null → (∀ y, ¬ b.StandsFor y) → a.order b = .lt) ∧
    (a ≠ .null → b ≠ .null → (∀ x, ¬ a.StandsFor x) → (∀ y, ¬ b.StandsFor y) →
      a.order b = compare a.text b.text) := by
  refine ⟨⟨Std.OrientedCmp.eq_swap, Std.ReflCmp.compare_self, ?_⟩, ?_, ?_, ?_, ?_, ?_⟩
  · simp only [← Ordering.isLE_iff_ne_gt]
    exact Std.TransCmp.isLE_trans
  · intro h
    obtain ⟨hleft, hright⟩ := order_congr h c
    exact ⟨hleft, hright, fun op hequal hlike => holds_congr h hequal hlike c⟩
  · rintro rfl
    cases b <;> rfl
  · intro x y hx hy
    rw [order_of_not_null hx.isNull hy.isNull, orderPresent, numeric?_eq_some_iff.mpr hx, numeric?_eq_some_iff.mpr hy]
  · intro x hx hb hy
    rw [order_of_not_null hx.isNull ((isNull_eq_false_iff b).mpr hb), orderPresent, numeric?_eq_some_iff.mpr hx,
      numeric?_eq_none_iff.mpr hy]
  · intro ha hb hx hy
    rw [order_of_not_null ((isNull_eq_false_iff a).mpr ha) ((isNull_eq_false_iff b).mpr hb), orderPresent,
      numeric?_eq_none_iff.mpr hx, numeric?_eq_none_iff.mpr hy, orderText]

/-- A number and a text that spells it stand at one place, between a boolean and other text. -/
example : (ofInt 2).order (.string " 2.0") = .eq ∧ (bool true).order (ofInt 2) = .lt ∧
    (string "two").order (ofInt 2) = .gt := by
  decide +kernel

end RowStore.Value
