import Mathlib.Data.List.Forall2
import Mathlib.Data.List.Infix
import RowStore.Proofs.Text.Folding
import RowStore.Text.Pattern

/-!
# What a pattern matches

A pattern matches the texts that can be cut into pieces, one for each of its characters and in their order. All ways to
cut a text count: a row holds the answers for all endings of the text at once, so no run has to be given its share first.
-/

namespace RowStore.Text.Pattern

set_option autoImplicit false

/-- The pieces that a character of a pattern stands for. -/
def Takes (p : Char) (piece : List Char) : Prop :=
  if p = '%' then True
  else if p = '_' then ∃ c, piece = [c]
  else ∃ c d, piece = [c] ∧ Folds c d ∧ Folds p d

/-- A text that is cut into pieces, one for each character of a pattern. -/
def Covers (pattern text : List Char) : Prop :=
  ∃ pieces, List.Forall₂ Takes pattern pieces ∧ pieces.flatten = text

section Covers

variable {p : Char} {pattern text : List Char}

theorem covers_nil : Covers [] text ↔ text = [] := by
  constructor
  · rintro ⟨pieces, hpieces, rfl⟩
    cases hpieces
    rfl
  · rintro rfl
    exact ⟨[], .nil, rfl⟩

theorem covers_cons : Covers (p :: pattern) text ↔
    ∃ piece rest, piece ++ rest = text ∧ Takes p piece ∧ Covers pattern rest := by
  constructor
  · rintro ⟨pieces, hpieces, rfl⟩
    obtain ⟨piece, others, htakes, hothers, rfl⟩ := List.forall₂_cons_left_iff.mp hpieces
    exact ⟨piece, others.flatten, rfl, htakes, others, hothers, rfl⟩
  · rintro ⟨piece, rest, rfl, htakes, others, hothers, rfl⟩
    exact ⟨piece :: others, .cons htakes hothers, rfl⟩

theorem covers_run : Covers ('%' :: pattern) text ↔ ∃ rest, rest <:+ text ∧ Covers pattern rest := by
  rw [covers_cons]
  constructor
  · rintro ⟨piece, rest, heq, _, hrest⟩
    exact ⟨rest, ⟨piece, heq⟩, hrest⟩
  · rintro ⟨rest, ⟨piece, heq⟩, hrest⟩
    exact ⟨piece, rest, heq, trivial, hrest⟩

theorem covers_of_takes {test : Char → Prop} (h : ∀ piece, Takes p piece ↔ ∃ c, piece = [c] ∧ test c) :
    Covers (p :: pattern) text ↔ ∃ c rest, text = c :: rest ∧ test c ∧ Covers pattern rest := by
  rw [covers_cons]
  constructor
  · rintro ⟨piece, rest, rfl, htakes, hrest⟩
    obtain ⟨c, rfl, hc⟩ := (h piece).mp htakes
    exact ⟨c, rest, rfl, hc, hrest⟩
  · rintro ⟨c, rest, rfl, hc, hrest⟩
    exact ⟨[c], rest, rfl, (h [c]).mpr ⟨c, rfl, hc⟩, hrest⟩

end Covers

/-- A row that answers a question about every ending of a text. -/
def Answers (holds : List Char → Prop) (row : List Bool) (text : List Char) : Prop :=
  List.Forall₂ (fun answer ending => answer = true ↔ holds ending) row text.tails

section Answers

variable {holds : List Char → Prop} {row : List Bool} {text : List Char} {c : Char} {answer : Bool}

theorem answers_nil : Answers holds [answer] [] ↔ (answer = true ↔ holds []) := by
  simp [Answers]

theorem answers_cons :
    Answers holds (answer :: row) (c :: text) ↔ (answer = true ↔ holds (c :: text)) ∧ Answers holds row text := by
  simp only [Answers, List.tails_cons, List.forall₂_cons]

theorem exists_of_answers_nil (h : Answers holds row []) : ∃ answer, row = [answer] := by
  obtain ⟨answer, rest, _, hrest, rfl⟩ := List.forall₂_cons_right_iff.mp h
  cases hrest
  exact ⟨answer, rfl⟩

theorem exists_of_answers_cons (h : Answers holds row (c :: text)) : ∃ answer rest, row = answer :: rest := by
  rw [Answers, List.tails_cons] at h
  obtain ⟨answer, rest, _, _, rfl⟩ := List.forall₂_cons_right_iff.mp h
  exact ⟨answer, rest, rfl⟩

theorem head?_iff (h : Answers holds row text) : row.head?.getD false = true ↔ holds text := by
  cases text with
  | nil =>
    obtain ⟨answer, rfl⟩ := exists_of_answers_nil h
    exact answers_nil.mp h
  | cons c text =>
    obtain ⟨answer, rest, rfl⟩ := exists_of_answers_cons h
    exact (answers_cons.mp h).1

theorem answers_endRow (text : List Char) : Answers (Covers []) (endRow text) text := by
  induction text with
  | nil => exact answers_nil.mpr (by simp [covers_nil])
  | cons c text ih => exact answers_cons.mpr ⟨by simp [covers_nil], ih⟩

theorem answers_runRow (h : Answers holds row text) :
    Answers (fun text => ∃ rest, rest <:+ text ∧ holds rest) (runRow row) text := by
  induction text generalizing row with
  | nil =>
    obtain ⟨answer, rfl⟩ := exists_of_answers_nil h
    apply answers_nil.mpr
    simpa [runRow] using answers_nil.mp h
  | cons c text ih =>
    obtain ⟨answer, rest, rfl⟩ := exists_of_answers_cons h
    obtain ⟨hanswer, hrest⟩ := answers_cons.mp h
    have hshorter := head?_iff (ih hrest)
    apply answers_cons.mpr
    refine ⟨?_, ih hrest⟩
    rw [Bool.or_eq_true, hanswer, hshorter]
    -- an ending of a longer text is the whole of it or an ending of what follows the first character
    simp only [List.suffix_cons_iff, or_and_right, exists_or, exists_eq_left]

theorem answers_charRow (test : Char → Bool) (h : Answers holds row text) :
    Answers (fun text => ∃ c rest, text = c :: rest ∧ test (fold c) = true ∧ holds rest)
      (charRow test (text.map fold) row) text := by
  induction text generalizing row with
  | nil => exact answers_nil.mpr (by simp)
  | cons c text ih =>
    obtain ⟨answer, rest, rfl⟩ := exists_of_answers_cons h
    obtain ⟨_, hrest⟩ := answers_cons.mp h
    apply answers_cons.mpr
    refine ⟨?_, ih hrest⟩
    rw [Bool.and_eq_true, head?_iff hrest]
    constructor
    · rintro ⟨htest, hholds⟩
      exact ⟨c, text, rfl, htest, hholds⟩
    · rintro ⟨first, others, heq, htest, hholds⟩
      cases heq
      exact ⟨htest, hholds⟩

end Answers

theorem Answers.congr {holds other : List Char → Prop} {row : List Bool} {text : List Char}
    (h : Answers holds row text) (heq : ∀ ending, holds ending ↔ other ending) : Answers other row text :=
  List.Forall₂.imp (fun _ ending hanswer => hanswer.trans (heq ending)) h

theorem answers_extendRow {p : Char} {pattern text : List Char} {row : List Bool}
    (h : Answers (Covers pattern) row text) :
    Answers (Covers (p :: pattern)) (extendRow (text.map fold) p row) text := by
  unfold extendRow
  split
  case isTrue hrun =>
    subst hrun
    exact (answers_runRow h).congr fun _ => covers_run.symm
  case isFalse hrun =>
    split
    case isTrue hany =>
      apply (answers_charRow (fun _ => true) h).congr
      intro ending
      apply (covers_of_takes _).symm
      intro piece
      rw [Takes, if_neg hrun, if_pos hany]
      simp
    case isFalse hany =>
      apply (answers_charRow (fun c => c == fold p) h).congr
      intro ending
      apply (covers_of_takes _).symm
      intro piece
      rw [Takes, if_neg hrun, if_neg hany]
      simp only [beq_iff_eq, ← fold_eq_iff, exists_and_left, exists_eq_right']

theorem answers_foldr (pattern text : List Char) :
    Answers (Covers pattern) (pattern.foldr (extendRow (text.map fold)) (endRow (text.map fold))) text := by
  induction pattern with
  | nil =>
    have hend : endRow (text.map fold) = endRow text := by
      rw [endRow, endRow, List.map_map]
      rfl
    rw [List.foldr_nil, hend]
    exact answers_endRow text
  | cons p pattern ih => exact answers_extendRow ih

/-- A text matches a pattern just when it can be cut into pieces that the characters of the pattern stand for, with
nothing left over at either end. -/
theorem fits_iff_exists_pieces (text pattern : String) :
    fits text pattern = true ↔
      ∃ pieces : List (List Char), List.Forall₂ Takes pattern.toList pieces ∧ pieces.flatten = text.toList :=
  head?_iff (answers_foldr pattern.toList text.toList)

/-- The second run has to give characters back for the end of the text. -/
example : fits "aXbc\nbC" "A_%b%c" = true ∧ fits "aXbc\nbCd" "A_%b%c" = false ∧ fits "a.b" "A.b" = true ∧
    fits "axb" "a.b" = false := by
  decide +kernel

end RowStore.Text.Pattern
