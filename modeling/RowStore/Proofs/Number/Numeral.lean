import Mathlib.Data.List.TakeDrop
import Mathlib.Data.List.TakeWhile
import RowStore.Number
import RowStore.Text.Blank

/-!
# Reading numerals

A sign, digits, a point and an exponent that stand after each other are read as these parts. All that a decimal numeral is
made of are digits and marks, so it has no blanks. An integer numeral is read as the integer it denotes, between blanks too.
-/

namespace RowStore

set_option autoImplicit false

namespace Text

theorem isBlank_of_isDigit {c : Char} (h : c.isDigit = true) : isBlank c = false := by
  simp only [Char.isDigit, Bool.and_eq_true, decide_eq_true_eq, ge_iff_le, UInt32.le_iff_toNat_le] at h
  have hlow : 48 ≤ c.toNat := h.1
  have hhigh : c.toNat ≤ 57 := h.2
  simp [isBlank, blankRanges]
  omega

theorem dropWhile_isBlank {text : List Char} (h : ∀ c ∈ text.head?, isBlank c = false) :
    text.dropWhile isBlank = text := by
  cases text with
  | nil => rfl
  | cons c rest => simp [h c rfl]

theorem trim_eq {text : List Char} (hfirst : ∀ c ∈ text.head?, isBlank c = false)
    (hlast : ∀ c ∈ text.getLast?, isBlank c = false) : trim text = text := by
  rw [trim, dropWhile_isBlank hfirst, dropWhile_isBlank, List.reverse_reverse]
  rwa [List.head?_reverse]

/-- What trimming leaves stands between blanks. -/
theorem exists_blanks_around (text : List Char) : ∃ before after, text = before ++ (trim text ++ after) ∧
    (∀ c ∈ before, isBlank c = true) ∧ ∀ c ∈ after, isBlank c = true := by
  have hinner : trim text ++ ((text.dropWhile isBlank).reverse.takeWhile isBlank).reverse = text.dropWhile isBlank := by
    rw [trim, ← List.reverse_append, List.takeWhile_append_dropWhile, List.reverse_reverse]
  refine ⟨text.takeWhile isBlank, ((text.dropWhile isBlank).reverse.takeWhile isBlank).reverse, ?_, ?_, ?_⟩
  · rw [hinner, List.takeWhile_append_dropWhile]
  · exact fun c hc => List.mem_takeWhile_imp hc
  · exact fun c hc => List.mem_takeWhile_imp (List.mem_reverse.mp hc)

theorem trim_between {before core after : List Char} (hbefore : ∀ c ∈ before, isBlank c = true)
    (hcore : ∀ c ∈ core, isBlank c = false) (hafter : ∀ c ∈ after, isBlank c = true) :
    trim (before ++ (core ++ after)) = core := by
  rw [trim, List.dropWhile_append_of_pos hbefore]
  cases core with
  | nil => rw [List.nil_append, List.dropWhile_eq_nil_iff.mpr hafter]; rfl
  | cons first rest =>
    have hfirst : ∀ c ∈ (first :: rest ++ after).head?, isBlank c = false := by
      intro c hc
      cases hc
      exact hcore first List.mem_cons_self
    rw [dropWhile_isBlank hfirst, List.reverse_append,
      List.dropWhile_append_of_pos fun c hc => hafter c (List.mem_reverse.mp hc), dropWhile_isBlank, List.reverse_reverse]
    exact fun c hc => hcore c (List.mem_reverse.mp (List.mem_of_mem_head? hc))

end Text

namespace Numeral

theorem isDigit_toDigits {a : Nat} {c : Char} (h : c ∈ Nat.toDigits 10 a) : c.isDigit = true :=
  Nat.isDigit_of_mem_toDigits (by decide) (by decide) h

theorem ofDigits_toDigits (a : Nat) : ofDigits (Nat.toDigits 10 a) = a :=
  Nat.ofDigitChars_ten_toDigits

def signed (negative : Bool) (text : List Char) : List Char :=
  (if negative then ['-'] else []) ++ text

theorem takeSign_signed (negative : Bool) {text : List Char} (h : ∀ c ∈ text.head?, c.isDigit = true) :
    takeSign (signed negative text) = (negative, text) := by
  cases negative with
  | true => rfl
  | false =>
    change takeSign text = (false, text)
    unfold takeSign
    split
    · exact absurd (h '-' rfl) (by decide)
    · exact absurd (h '+' rfl) (by decide)
    · rfl

theorem span_append (rest : List Char) {digits : List Char} (hdigits : ∀ c ∈ digits, c.isDigit = true)
    (hrest : ∀ c ∈ rest.head?, c.isDigit = false) : (digits ++ rest).span Char.isDigit = (digits, rest) := by
  have hdrop : rest.takeWhile Char.isDigit = [] ∧ rest.dropWhile Char.isDigit = rest := by
    cases rest with
    | nil => exact ⟨rfl, rfl⟩
    | cons c more => simp [hrest c rfl]
  rw [List.span_eq_takeWhile_dropWhile, List.takeWhile_append_of_pos hdigits, List.dropWhile_append_of_pos hdigits,
    hdrop.1, hdrop.2, List.append_nil]

theorem head?_append_of_ne_nil (rest : List Char) {whole : List Char} (hne : whole ≠ [])
    (hwhole : ∀ c ∈ whole, c.isDigit = true) : ∀ c ∈ (whole ++ rest).head?, c.isDigit = true := by
  cases whole with
  | nil => exact absurd rfl hne
  | cons first more =>
    intro c hc
    cases hc
    exact hwhole first List.mem_cons_self

section

variable (negative : Bool) {whole fraction : List Char} (tail : List Char) {e : Int}

theorem decimal?_point (hne : whole ≠ []) (hwhole : ∀ c ∈ whole, c.isDigit = true)
    (hfraction : ∀ c ∈ fraction, c.isDigit = true) (htail : ∀ c ∈ tail.head?, c.isDigit = false)
    (he : exponent? tail = some e) :
    decimal? (signed negative (whole ++ '.' :: (fraction ++ tail)))
      = some ⟨negative, ofDigits (whole ++ fraction), e - fraction.length⟩ := by
  have hsign := takeSign_signed negative (head?_append_of_ne_nil ('.' :: (fraction ++ tail)) hne hwhole)
  have hspan := span_append ('.' :: (fraction ++ tail)) hwhole (by simp)
  rw [decimal?, hsign]
  simp only [hspan, takeFraction, span_append tail hfraction htail, hne, false_and, if_false, he, Option.map_some]

theorem decimal?_whole (hne : whole ≠ []) (hwhole : ∀ c ∈ whole, c.isDigit = true)
    (htail : ∀ c ∈ tail.head?, c = 'e') (he : exponent? tail = some e) :
    decimal? (signed negative (whole ++ tail)) = some ⟨negative, ofDigits whole, e⟩ := by
  have hsign := takeSign_signed negative (head?_append_of_ne_nil tail hne hwhole)
  have hdigit : ∀ c ∈ tail.head?, c.isDigit = false := by
    intro c hc
    rw [htail c hc]
    rfl
  have hfraction : takeFraction tail = ([], tail) := by
    unfold takeFraction
    split
    · exact absurd (htail '.' rfl) (by decide)
    · rfl
  rw [decimal?, hsign]
  simp only [span_append tail hwhole hdigit, hfraction, hne, false_and, if_false, he, Option.map_some, List.append_nil,
    List.length_nil]
  rw [Int.natCast_zero, Int.sub_zero]

theorem exponent?_written (n : Int) :
    exponent? ('e' :: (if n < 0 then '-' else '+') :: Nat.toDigits 10 n.natAbs) = some n := by
  have hdigits : natural? (Nat.toDigits 10 n.natAbs) = some n.natAbs := by
    rw [natural?, if_pos, ofDigits_toDigits]
    exact ⟨Nat.toDigits_ne_nil, List.all_eq_true.mpr fun c hc => isDigit_toDigits hc⟩
  rw [exponent?, if_pos (.inl rfl)]
  by_cases hn : n < 0
  · rw [if_pos hn]
    simp only [integer?, takeSign, hdigits, if_true]
    change some (-(n.natAbs : Int)) = some n
    rw [Option.some.injEq]
    omega
  · rw [if_neg hn]
    simp only [integer?, takeSign, hdigits, Bool.false_eq_true, if_false]
    change some (n.natAbs : Int) = some n
    rw [Option.some.injEq]
    omega

end

section

variable {text : List Char}

theorem mem_takeSign {c : Char} (h : c ∈ text) : c = '-' ∨ c = '+' ∨ c ∈ (takeSign text).2 := by
  unfold takeSign
  split
  · exact (List.mem_cons.mp h).imp_right .inr
  · exact .inr (List.mem_cons.mp h)
  · exact .inr (.inr h)

theorem mem_span {c : Char} (h : c ∈ text) : c.isDigit = true ∨ c ∈ (text.span Char.isDigit).2 := by
  rw [List.span_eq_takeWhile_dropWhile]
  rw [← List.takeWhile_append_dropWhile (p := Char.isDigit) (l := text)] at h
  exact (List.mem_append.mp h).imp_left List.mem_takeWhile_imp

theorem mem_takeFraction {c : Char} (h : c ∈ text) : c = '.' ∨ c.isDigit = true ∨ c ∈ (takeFraction text).2 := by
  unfold takeFraction
  split
  · exact (List.mem_cons.mp h).imp_right mem_span
  · exact .inr (.inr h)

theorem mem_exponent {c : Char} {e : Int} (he : exponent? text = some e) (h : c ∈ text) :
    c = 'e' ∨ c = 'E' ∨ c = '-' ∨ c = '+' ∨ c.isDigit = true := by
  unfold exponent? at he
  split at he
  · cases h
  · split at he
    case isFalse => cases he
    case isTrue first rest hletter =>
      rcases List.mem_cons.mp h with rfl | hrest
      · exact hletter.imp_right .inl
      · have hsign := mem_takeSign hrest
        unfold integer? at he
        generalize takeSign rest = sign at he hsign
        obtain ⟨negative, digits⟩ := sign
        right; right
        apply hsign.imp_right
        apply Or.imp_right
        intro hdigits
        obtain ⟨n, hn, _⟩ := Option.map_eq_some_iff.mp he
        unfold natural? at hn
        split at hn
        case isFalse => cases hn
        case isTrue hall => exact List.all_eq_true.mp hall.2 c hdigits

theorem mem_decimal {c : Char} {d : Decimal} (hd : decimal? text = some d) (h : c ∈ text) :
    c ∈ ['-', '+', '.', 'e', 'E'] ∨ c.isDigit = true := by
  have hsign := mem_takeSign h
  unfold decimal? at hd
  generalize takeSign text = sign at hd hsign
  obtain ⟨negative, body⟩ := sign
  have hwhole : c ∈ body → _ := mem_span
  dsimp only at hd
  generalize body.span Char.isDigit = span at hd hwhole
  obtain ⟨whole, afterWhole⟩ := span
  have hfraction : c ∈ afterWhole → _ := mem_takeFraction
  generalize takeFraction afterWhole = taken at hd hfraction
  obtain ⟨fraction, afterFraction⟩ := taken
  dsimp only at hd
  split at hd
  case isTrue => cases hd
  case isFalse =>
    obtain ⟨e, he, _⟩ := Option.map_eq_some_iff.mp hd
    rcases hsign with rfl | rfl | hbody
    · exact .inl (by decide)
    · exact .inl (by decide)
    · rcases hwhole hbody with hdigit | hafter
      · exact .inr hdigit
      · rcases hfraction hafter with rfl | hdigit | hrest
        · exact .inl (by decide)
        · exact .inr hdigit
        · rcases mem_exponent he hrest with rfl | rfl | rfl | rfl | hdigit
          case inr.inr.inr.inr => exact .inr hdigit
          all_goals exact .inl (by decide)

/-- There are no blanks in a numeral. -/
theorem trim_of_decimal? {d : Decimal} (hd : decimal? text = some d) : Text.trim text = text := by
  have hblank : ∀ c ∈ text, Text.isBlank c = false := by
    intro c hc
    rcases mem_decimal hd hc with hmark | hdigit
    · simp only [List.mem_cons, List.not_mem_nil, or_false] at hmark
      rcases hmark with rfl | rfl | rfl | rfl | rfl <;> rfl
    · exact Text.isBlank_of_isDigit hdigit
  exact Text.trim_eq (fun c hc => hblank c (List.mem_of_mem_head? hc))
    (fun c hc => hblank c (List.mem_of_mem_getLast? hc))

end

/-- An integer numeral and its value: digits, most significant first, after a sign or none. -/
inductive Denotes : List Char → Int → Prop where
  | unsigned {digits : List Char} (hne : digits ≠ []) (hdigits : ∀ c ∈ digits, c.isDigit = true) :
    Denotes digits (ofDigits digits)
  | plus {digits : List Char} (hne : digits ≠ []) (hdigits : ∀ c ∈ digits, c.isDigit = true) :
    Denotes ('+' :: digits) (ofDigits digits)
  | minus {digits : List Char} (hne : digits ≠ []) (hdigits : ∀ c ∈ digits, c.isDigit = true) :
    Denotes ('-' :: digits) (-(ofDigits digits : Int))

section

variable {text : List Char} {n : Int}

theorem natural?_eq_some_iff {a : Nat} :
    natural? text = some a ↔ text ≠ [] ∧ (∀ c ∈ text, c.isDigit = true) ∧ ofDigits text = a := by
  rw [natural?]
  split
  case isTrue h => simpa [h.1] using fun _ => List.all_eq_true.mp h.2
  case isFalse h =>
    refine iff_of_false nofun ?_
    rintro ⟨hne, hdigits, _⟩
    exact h ⟨hne, List.all_eq_true.mpr hdigits⟩

theorem integer?_eq_some_iff : integer? text = some n ↔ Denotes text n := by
  constructor
  · intro h
    unfold integer? takeSign at h
    dsimp only at h
    split at h
    all_goals
      obtain ⟨_, hlifted, rfl⟩ := Option.map_eq_some_iff.mp h
      obtain ⟨a, ha, hcast⟩ := Option.bind_eq_some_iff.mp hlifted
      cases hcast
      obtain ⟨hne, hdigits, rfl⟩ := natural?_eq_some_iff.mp ha
    · exact .minus hne hdigits
    · exact .plus hne hdigits
    · exact .unsigned hne hdigits
  · intro h
    cases h with
    | unsigned hne hdigits =>
      have hsign := takeSign_signed false fun c hc => hdigits c (List.mem_of_mem_head? hc)
      rw [integer?, show takeSign text = (false, text) from hsign]
      simp [natural?_eq_some_iff.mpr ⟨hne, hdigits, rfl⟩]
    | plus hne hdigits => simp [integer?, takeSign, natural?_eq_some_iff.mpr ⟨hne, hdigits, rfl⟩]
    | minus hne hdigits => simp [integer?, takeSign, natural?_eq_some_iff.mpr ⟨hne, hdigits, rfl⟩]

theorem Denotes.isBlank_eq_false (h : Denotes text n) : ∀ c ∈ text, Text.isBlank c = false := by
  cases h with
  | unsigned _ hdigits => exact fun c hc => Text.isBlank_of_isDigit (hdigits c hc)
  | plus _ hdigits | minus _ hdigits =>
    intro c hc
    rcases List.mem_cons.mp hc with rfl | hc
    · rfl
    · exact Text.isBlank_of_isDigit (hdigits c hc)

/-- A numeral with nothing but blanks around it. -/
def Spells (text : List Char) (n : Int) : Prop :=
  ∃ before core after, text = before ++ (core ++ after) ∧ (∀ c ∈ before, Text.isBlank c = true) ∧
    (∀ c ∈ after, Text.isBlank c = true) ∧ Denotes core n

theorem spells_iff : Spells text n ↔ integer? (Text.trim text) = some n := by
  constructor
  · rintro ⟨before, core, after, rfl, hbefore, hafter, hcore⟩
    rw [Text.trim_between hbefore hcore.isBlank_eq_false hafter]
    exact integer?_eq_some_iff.mpr hcore
  · intro h
    obtain ⟨before, after, htext, hbefore, hafter⟩ := Text.exists_blanks_around text
    exact ⟨before, Text.trim text, after, htext, hbefore, hafter, integer?_eq_some_iff.mp h⟩

end

end Numeral

end RowStore
