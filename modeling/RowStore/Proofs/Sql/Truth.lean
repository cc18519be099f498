import RowStore.Proofs.Predicate.Meaning
import RowStore.Proofs.Sql.Logic

/-!
# Conditions in three-valued logic

A condition is true, false or unknown of a row, and everything that is asked of a null is unknown, except whether it
is one. Rows that satisfy a clause are those of which its rendered text is true, with one exception: as a member of a
list of operands, null is taken for the text that spells it.
-/

namespace RowStore

set_option autoImplicit false

inductive Truth where
  | no
  | unknown
  | yes
deriving DecidableEq, Repr

namespace Truth

def ofBool (b : Bool) : Truth := if b then yes else no

def and : Truth → Truth → Truth
  | no, _ => no
  | _, no => no
  | yes, t => t
  | unknown, _ => unknown

def or : Truth → Truth → Truth
  | yes, _ => yes
  | _, yes => yes
  | no, t => t
  | unknown, _ => unknown

@[simp] theorem ofBool_eq_yes (b : Bool) : ofBool b = yes ↔ b = true := by
  cases b <;> simp [ofBool]

@[simp] theorem and_eq_yes (s t : Truth) : s.and t = yes ↔ s = yes ∧ t = yes := by
  cases s <;> cases t <;> simp [and]

@[simp] theorem or_eq_yes (s t : Truth) : s.or t = yes ↔ s = yes ∨ t = yes := by
  cases s <;> cases t <;> simp [or]

theorem yes_and (t : Truth) : yes.and t = t := by
  cases t <;> rfl

theorem and_yes (t : Truth) : t.and yes = t := by
  cases t <;> rfl

theorem and_assoc (s t u : Truth) : (s.and t).and u = s.and (t.and u) := by
  cases s <;> cases t <;> cases u <;> rfl

theorem or_no (t : Truth) : t.or no = t := by
  cases t <;> rfl

end Truth

/-- Nothing is known of a comparison with null. -/
def Comparison.truth (op : Comparison) (cell operand : Value) : Truth :=
  if cell.isNull || operand.isNull then .unknown else .ofBool (op.relates cell operand)

def Value.differsTruth (cell operand : Value) : Truth :=
  if cell.isNull || operand.isNull then .unknown else .ofBool !cell.same operand

namespace Sql

/-- Equal to one of the operands. -/
def amongTruth (cell : Value) : List Value → Truth
  | [] => .no
  | operand :: rest => (Comparison.equal.truth cell operand).or (amongTruth cell rest)

/-- Unequal to every operand. -/
def notAmongTruth (cell : Value) : List Value → Truth
  | [] => .yes
  | operand :: rest => (cell.differsTruth operand).and (notAmongTruth cell rest)

/-- What is known of a formula. -/
def Logic.threeValued : Logic Truth where
  ofBool := Truth.ofBool
  and := Truth.and
  or := Truth.or
  compare := Comparison.truth
  differs := Value.differsTruth
  among := amongTruth
  notAmong := notAmongTruth
  yes_and := Truth.yes_and
  and_yes := Truth.and_yes
  and_assoc := Truth.and_assoc
  or_no := Truth.or_no

/-- Yes comes of what holds. -/
theorem Logic.relates_yes_of_holds : threeValued.Relates fun b t => b = true → t = .yes where
  ofBool b := (Truth.ofBool_eq_yes b).mpr
  and hb hc h := by
    rw [Bool.and_eq_true] at h
    exact (Truth.and_eq_yes _ _).mpr ⟨hb h.1, hc h.2⟩
  or hb hc h := by
    rw [Bool.or_eq_true] at h
    exact (Truth.or_eq_yes _ _).mpr (h.imp hb hc)

/-- Yes comes only of what holds. -/
theorem Logic.relates_holds_of_yes : threeValued.Relates fun b t => t = .yes → b = true where
  ofBool b := (Truth.ofBool_eq_yes b).mp
  and hb hc h := by
    obtain ⟨hx, hy⟩ := (Truth.and_eq_yes _ _).mp h
    rw [hb hx, hc hy, Bool.and_self]
  or hb hc h := Bool.or_eq_true_iff.mpr (((Truth.or_eq_yes _ _).mp h).imp hb hc)

/-- What the text of a condition says of a row, if it can be read; without a text nothing is asked. -/
def Where.truth? (row : Record) (w : Where) : Option Truth :=
  match w.text? with
  | none => some .yes
  | some text => (parse? text.toList w.params).map (evalSome .threeValued row)

theorem truth?_ofClause (row : Record) (clause : Clause) :
    (ofClause clause).truth? row = some (evalAll .threeValued row clause.formulas) := by
  rw [ofClause_eq, Where.truth?, Where.text?]
  cases hfs : clause.formulas with
  | nil => rw [exprs, evalAll]; rfl
  | cons f rest =>
    have hparse := parse?_conjunction (List.cons_ne_nil f rest)
    have hexprs : (exprs (f :: rest)).isEmpty = false := by rw [exprs]; rfl
    rw [hexprs, if_neg Bool.false_ne_true]
    simp only [String.toList_ofList, hparse, Option.map_some, evalSome_singleton, evalAll_readBackAll]

end Sql

open Sql

namespace Condition

def truth (row : Record) (c : Condition) : Truth := c.formula.eval .threeValued row

/-- A row that a condition matches by a null in its list: as the text that spells it, or as something that every
other text is unequal to. -/
def Strays (row : Record) : Condition → Prop
  | oneOf column operands => .null ∈ operands ∧ (row.cell column).text = Value.null.text ∧
      row.cell column ≠ .null ∧ ∀ operand ∈ operands, operand ≠ .null → (row.cell column).same operand = false
  | noneOf column operands => .null ∈ operands ∧ row.cell column ≠ .null ∧
      ∀ operand ∈ operands, (row.cell column).same operand = false
  | compare _ _ _ | notEqual _ _ => False

end Condition

/-- Null as the text that spells it. -/
def Value.nullAsText (value : Value) : Value :=
  if value.isNull then .string Value.null.text else value

/-- The same condition with null spelled out in its list. -/
def Condition.nullsAsText : Condition → Condition
  | oneOf column operands => .oneOf column (operands.map Value.nullAsText)
  | noneOf column operands => .noneOf column (operands.map Value.nullAsText)
  | c => c

theorem Sql.amongTruth_eq_yes (cell : Value) (operands : List Value) :
    amongTruth cell operands = .yes
      ↔ cell ≠ .null ∧ ∃ operand ∈ operands, operand ≠ .null ∧ cell.same operand = true := by
  induction operands with
  | nil => simp [amongTruth]
  | cons operand rest ih =>
    rw [amongTruth, Truth.or_eq_yes, ih, Comparison.truth]
    by_cases hc : cell = .null <;> by_cases ho : operand = .null <;> simp [hc, ho, Comparison.relates]

theorem Sql.notAmongTruth_eq_yes (cell : Value) (operands : List Value) :
    notAmongTruth cell operands = .yes
      ↔ ∀ operand ∈ operands, cell ≠ .null ∧ operand ≠ .null ∧ cell.same operand = false := by
  induction operands with
  | nil => simp [notAmongTruth]
  | cons operand rest ih =>
    rw [notAmongTruth, Truth.and_eq_yes, ih, List.forall_mem_cons, Value.differsTruth]
    by_cases hc : cell = .null <;> by_cases ho : operand = .null <;> simp [hc, ho]

theorem Value.same_null (cell : Value) : cell.same .null = (cell.text == Value.null.text) := by
  unfold Value.same
  cases cell.numeric? <;> rfl

theorem Value.same_nullText (cell : Value) : cell.same (.string Value.null.text) = cell.same .null := by
  have hnumeric : (Value.string Value.null.text).numeric? = none := by decide +kernel
  rw [Value.same_null]
  unfold Value.same
  rw [hnumeric]
  cases cell.numeric? <;> rfl

theorem Value.same_nullAsText (cell operand : Value) : cell.same operand.nullAsText = cell.same operand := by
  unfold Value.nullAsText
  split
  · rename_i h
    rw [Value.same_nullText, (Value.isNull_iff operand).mp h]
  · rfl

theorem Value.nullAsText_ne_null (operand : Value) : operand.nullAsText ≠ .null := by
  unfold Value.nullAsText
  split
  · exact nofun
  · rename_i h
    simpa using h

theorem Comparison.truth_eq_yes {op : Comparison} {cell operand : Value} (h : ¬ (operand = .null ∧ op = .equal)) :
    op.truth cell operand = .yes ↔ op.holds cell operand = true := by
  unfold Comparison.truth Comparison.holds
  by_cases hc : cell = .null
  · cases op <;> simp_all
  · by_cases ho : operand = .null
    · cases op <;> simp_all
    · cases op <;> simp [hc, ho, Comparison.relates]

namespace Condition

variable {row : Record}

theorem truth_compare_eq_yes (column : String) (op : Comparison) (operand : Value) :
    (compare column op operand).truth row = .yes ↔ (compare column op operand).holds row = true := by
  rw [truth, formula, holds]
  by_cases h : operand = .null ∧ op = .equal
  · obtain ⟨rfl, rfl⟩ := h
    simp [Value.isNull, Formula.eval, Logic.threeValued, Comparison.holds]
  · rw [if_neg (by simpa using h), Formula.eval]
    exact Comparison.truth_eq_yes h

theorem truth_notEqual_eq_yes (column : String) (operand : Value) :
    (notEqual column operand).truth row = .yes ↔ (notEqual column operand).holds row = true := by
  rw [truth, formula, holds]
  by_cases ho : operand = .null
  · simp [ho, Value.isNull, Formula.eval, Logic.threeValued]
  · by_cases hc : row.cell column = .null <;> simp [ho, hc, Formula.eval, Logic.threeValued, Value.differsTruth]

theorem truth_oneOf_eq_yes (column : String) (operands : List Value) :
    (oneOf column operands).truth row = .yes
      ↔ row.cell column ≠ .null ∧
        ∃ operand ∈ operands, operand ≠ .null ∧ (row.cell column).same operand = true := by
  rw [truth, formula]
  split
  · rename_i h
    simp [h, Formula.eval, Logic.threeValued]
  · rw [Formula.eval]
    exact amongTruth_eq_yes _ _

theorem truth_noneOf_eq_yes (column : String) (operands : List Value) :
    (noneOf column operands).truth row = .yes
      ↔ ∀ operand ∈ operands, row.cell column ≠ .null ∧ operand ≠ .null ∧
        (row.cell column).same operand = false := by
  rw [truth, formula]
  split
  · rename_i h
    simp [h, Formula.eval, Logic.threeValued]
  · rw [Formula.eval]
    exact notAmongTruth_eq_yes _ _

theorem holds_oneOf_iff (column : String) (operands : List Value) :
    (oneOf column operands).holds row = true
      ↔ row.cell column ≠ .null ∧ ∃ operand ∈ operands, (row.cell column).same operand = true := by
  simp [holds]

theorem holds_noneOf_iff (column : String) (operands : List Value) :
    (noneOf column operands).holds row = true
      ↔ ∀ operand ∈ operands, row.cell column ≠ .null ∧ (row.cell column).same operand = false := by
  rw [holds]
  cases operands with
  | nil => simp
  | cons operand rest =>
    have hsplit : (∀ v ∈ operand :: rest, row.cell column ≠ .null ∧ (row.cell column).same v = false)
        ↔ row.cell column ≠ .null ∧ ∀ v ∈ operand :: rest, (row.cell column).same v = false :=
      ⟨fun h => ⟨(h operand List.mem_cons_self).1, fun v hv => (h v hv).2⟩, fun h v hv => ⟨h.1, h.2 v hv⟩⟩
    rw [hsplit]
    simp

/-- A condition that is true of a row is satisfied by it; one that is satisfied is true, or the row has strayed
through a null. -/
theorem holds_iff_truth_or_strays (c : Condition) :
    c.holds row = true ↔ c.truth row = .yes ∨ c.Strays row := by
  cases c with
  | compare column op operand => simp [truth_compare_eq_yes, Strays]
  | notEqual column operand => simp [truth_notEqual_eq_yes, Strays]
  | oneOf column operands =>
    rw [holds_oneOf_iff, truth_oneOf_eq_yes, Strays]
    constructor
    · rintro ⟨hc, operand, hm, hsame⟩
      by_cases hother : ∃ operand ∈ operands, operand ≠ .null ∧ (row.cell column).same operand = true
      · exact .inl ⟨hc, hother⟩
      · have hnull : operand = .null := by
          by_contra h
          exact hother ⟨operand, hm, h, hsame⟩
        subst hnull
        rw [Value.same_null, beq_iff_eq] at hsame
        refine .inr ⟨hm, hsame, hc, ?_⟩
        intro other hother' hne
        by_contra h
        exact hother ⟨other, hother', hne, by simpa using h⟩
    · rintro (⟨hc, operand, hm, _, hsame⟩ | ⟨hm, htext, hc, _⟩)
      · exact ⟨hc, operand, hm, hsame⟩
      · refine ⟨hc, .null, hm, ?_⟩
        rw [Value.same_null, beq_iff_eq]
        exact htext
  | noneOf column operands =>
    rw [holds_noneOf_iff, truth_noneOf_eq_yes, Strays]
    constructor
    · intro h
      by_cases hnull : .null ∈ operands
      · exact .inr ⟨hnull, (h _ hnull).1, fun operand hm => (h operand hm).2⟩
      · exact .inl fun operand hm => ⟨(h operand hm).1, fun he => hnull (he ▸ hm), (h operand hm).2⟩
    · rintro (h | ⟨_, hc, h⟩)
      · exact fun operand hm => ⟨(h operand hm).1, (h operand hm).2.2⟩
      · exact fun operand hm => ⟨hc, h operand hm⟩

theorem not_strays_of_truth {c : Condition} (h : c.truth row = .yes) : ¬ c.Strays row := by
  cases c with
  | compare column op operand => exact nofun
  | notEqual column operand => exact nofun
  | oneOf column operands =>
    rintro ⟨_, _, _, hother⟩
    obtain ⟨_, operand, hm, hne, hsame⟩ := (truth_oneOf_eq_yes column operands).mp h
    simp [hother operand hm hne] at hsame
  | noneOf column operands =>
    rintro ⟨hnull, _, _⟩
    exact ((truth_noneOf_eq_yes column operands).mp h _ hnull).2.1 rfl

/-- The condition is satisfied just when it is true with null spelled out in its list. -/
theorem holds_iff_truth_nullsAsText (c : Condition) :
    c.holds row = true ↔ c.nullsAsText.truth row = .yes := by
  cases c with
  | compare column op operand => exact (truth_compare_eq_yes column op operand).symm
  | notEqual column operand => exact (truth_notEqual_eq_yes column operand).symm
  | oneOf column operands =>
    rw [nullsAsText, holds_oneOf_iff, truth_oneOf_eq_yes]
    simp [Value.same_nullAsText, Value.nullAsText_ne_null]
  | noneOf column operands =>
    rw [nullsAsText, holds_noneOf_iff, truth_noneOf_eq_yes]
    simp [Value.same_nullAsText, Value.nullAsText_ne_null]

end Condition

namespace Clause

/-- A row of which the rendered text of a clause is true satisfies the clause, and the converse holds unless the row
strays through a null in one of the lists. Altogether, the rows that satisfy a clause are those of which its text is
true with the nulls in its lists spelled out, and on its own every condition through which a row strays is one that
the row satisfies although its text is not true. -/
theorem holds_iff_truth?_nullsAsText (clause : Clause) (row : Record) :
    ∃ t, (ofClause clause).truth? row = some t ∧
      (t = .yes → clause.holds row = true) ∧
      ((∀ c ∈ clause.conditions, ¬ c.Strays row) → (clause.holds row = true ↔ t = .yes)) ∧
      (clause.holds row = true ↔ (ofClause (clause.map Condition.nullsAsText)).truth? row = some .yes) ∧
      ∀ c ∈ clause.conditions, c.Strays row ↔
        (Clause.condition c).holds row = true ∧ (ofClause (.condition c)).truth? row ≠ some .yes := by
  have hsound : evalAll .threeValued row clause.formulas = .yes → clause.holds row = true := by
    have h := relates_formulas row id Logic.relates_holds_of_yes clause
      fun c _ ht => c.holds_iff_truth_or_strays.mpr (.inl ht)
    rwa [map_id] at h
  refine ⟨_, truth?_ofClause row clause, hsound, ?_, ?_, ?_⟩
  · intro hstrays
    refine ⟨?_, hsound⟩
    have h := relates_formulas row id Logic.relates_yes_of_holds clause
      fun c hm hc => (c.holds_iff_truth_or_strays.mp hc).resolve_right (hstrays c hm)
    rwa [map_id] at h
  · rw [truth?_ofClause, Option.some.injEq]
    exact ⟨relates_formulas row _ Logic.relates_yes_of_holds clause fun c _ => c.holds_iff_truth_nullsAsText.mp,
      relates_formulas row _ Logic.relates_holds_of_yes clause fun c _ => c.holds_iff_truth_nullsAsText.mpr⟩
  · intro c _
    rw [truth?_ofClause, formulas, evalAll_singleton, ne_eq, Option.some.injEq, ← Condition.truth, holds]
    constructor
    · intro hs
      exact ⟨c.holds_iff_truth_or_strays.mpr (.inr hs), fun ht => Condition.not_strays_of_truth ht hs⟩
    · rintro ⟨hc, ht⟩
      exact (c.holds_iff_truth_or_strays.mp hc).resolve_left ht

/-- The text of `$nin` with null alone in its list is unknown of every row, but the clause holds of most of them. -/
theorem not_forall_holds_iff_truth? :
    ¬ ∀ (p : Predicate) (clause : Clause) (row : Record), Clause.compile p = .ok clause →
      (clause.holds row = true ↔ (ofClause clause).truth? row = some .yes) := by
  intro h
  have hclause := h [("a", .object [("$nin", .array [.null])])] (.all [.condition (.noneOf "a" [.null])])
    [("a", .string "x")] rfl
  have hholds : holds [("a", .string "x")] (.all [.condition (.noneOf "a" [.null])]) = true := by decide +kernel
  have htruth := hclause.mp hholds
  rw [truth?_ofClause, Option.some.injEq] at htruth
  simp [formulas, formulasAll, Condition.formula, evalAll, Formula.eval, Logic.threeValued, notAmongTruth,
    Value.differsTruth, Record.cell, Value.isNull] at htruth

end Clause

end RowStore
