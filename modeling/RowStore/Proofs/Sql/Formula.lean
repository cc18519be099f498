import RowStore.Proofs.Sql.Token

/-!
# Conditions with their values

A formula is a condition whose placeholders have been given their values. Its shape and its values are the parts of
a rendered clause, so that what a clause renders to is a list of formulas.
-/

namespace RowStore

set_option autoImplicit false

namespace Sql

/-- A condition whose operands are in their places. -/
inductive Formula where
  | constant (b : Bool)
  | nullTest (column : String) (negated : Bool)
  | compare (column : String) (op : Comparison) (operand : Value)
  | differs (column : String) (operand : Value)
  | among (column : String) (operands : List Value)
  | notAmong (column : String) (operands : List Value)
  | any (branches : List (List Formula))

mutual

def Formula.expr : Formula → Expr
  | .constant b => if b then .always else .never
  | .nullTest column negated => if negated then .isNotNull column else .isNull column
  | .compare column op _ => .compare column op
  | .differs column _ => .differs column
  | .among column operands => .among column operands.length
  | .notAmong column operands => .notAmong column operands.length
  | .any branches => .any (branchExprs branches)

def branchExprs : List (List Formula) → List (List Expr)
  | [] => []
  | branch :: rest => exprs branch :: branchExprs rest

def exprs : List Formula → List Expr
  | [] => []
  | f :: rest => f.expr :: exprs rest

end

mutual

/-- The values, in the order of their placeholders. -/
def Formula.values : Formula → List Value
  | .constant _ => []
  | .nullTest _ _ => []
  | .compare _ _ operand => [operand]
  | .differs _ operand => [operand]
  | .among _ operands => operands
  | .notAmong _ operands => operands
  | .any branches => branchValues branches

def branchValues : List (List Formula) → List Value
  | [] => []
  | branch :: rest => values branch ++ branchValues rest

def values : List Formula → List Value
  | [] => []
  | f :: rest => f.values ++ values rest

end

theorem exprs_append (fs gs : List Formula) : exprs (fs ++ gs) = exprs fs ++ exprs gs := by
  induction fs with
  | nil => rfl
  | cons f rest ih => rw [List.cons_append, exprs, exprs, ih, List.cons_append]

theorem values_append (fs gs : List Formula) : values (fs ++ gs) = values fs ++ values gs := by
  induction fs with
  | nil => rfl
  | cons f rest ih => rw [List.cons_append, values, values, ih, List.append_assoc]

end Sql

open Sql

/-- What a condition is rendered as: a test for null where the operand is null, a constant where there are no
operands. -/
def Condition.formula : Condition → Formula
  | .compare column op operand =>
    if operand.isNull ∧ op = .equal then .nullTest column false else .compare column op operand
  | .notEqual column operand => if operand.isNull then .nullTest column true else .differs column operand
  | .oneOf column operands => if operands = [] then .constant false else .among column operands
  | .noneOf column operands => if operands = [] then .constant true else .notAmong column operands

namespace Clause

mutual

/-- What a clause is rendered as; conjunctions inside conjunctions are flattened. -/
def formulas : Clause → List Formula
  | .condition c => [c.formula]
  | .all clauses => formulasAll clauses
  | .any branches => [.any (formulasEach branches)]

def formulasAll : List Clause → List Formula
  | [] => []
  | clause :: rest => formulas clause ++ formulasAll rest

def formulasEach : List Clause → List (List Formula)
  | [] => []
  | clause :: rest => formulas clause :: formulasEach rest

end

end Clause

namespace Sql.Where

def addAll (w : Where) (fs : List Formula) : Where :=
  ⟨w.exprs ++ Sql.exprs fs, w.params ++ values fs⟩

theorem addAll_nil (w : Where) : w.addAll [] = w := by
  simp [addAll, Sql.exprs, values]

theorem addAll_append (w : Where) (fs gs : List Formula) : w.addAll (fs ++ gs) = (w.addAll fs).addAll gs := by
  simp only [addAll, exprs_append, values_append, List.append_assoc]

theorem add_formula (w : Where) (f : Formula) : w.add f.expr f.values = w.addAll [f] := by
  simp only [add, addAll, Sql.exprs, values, List.append_nil]

theorem addCondition_eq (w : Where) (c : Condition) : w.addCondition c = w.addAll [c.formula] := by
  rw [← add_formula]
  cases c with
  | compare column op operand =>
    rw [addCondition, Condition.formula]
    split <;> simp [Formula.expr, Formula.values]
  | notEqual column operand =>
    rw [addCondition, Condition.formula]
    split <;> simp [Formula.expr, Formula.values]
  | oneOf column operands =>
    rw [addCondition, Condition.formula]
    split <;> simp [Formula.expr, Formula.values]
  | noneOf column operands =>
    rw [addCondition, Condition.formula]
    split <;> simp [Formula.expr, Formula.values]

end Sql.Where

namespace Clause

open Where

mutual

theorem replay_where : ∀ (clause : Clause) (w : Where),
    clause.replay Where.builder w = (.ok (), w.addAll (formulas clause))
  | .condition c, w => by
    rw [replay, formulas, ← addCondition_eq]
    rfl
  | .all clauses, w => by
    rw [replay, formulas]
    exact replayAll_where clauses w
  | .any branches, w => by
    rw [replay, formulas, ← add_formula, Formula.expr, Formula.values]
    exact addBranches_where branches w []

theorem replayAll_where : ∀ (clauses : List Clause) (w : Where),
    replayAll Where.builder clauses w = (.ok (), w.addAll (formulasAll clauses))
  | [], w => by rw [replayAll, formulasAll, addAll_nil, Step.skip]
  | clause :: rest, w => by
    rw [replayAll, formulasAll, Step.andThen, replay_where clause w, addAll_append]
    exact replayAll_where rest _

theorem addBranches_where : ∀ (branches : List Clause) (w : Where) (made : List (List Expr)),
    w.addBranches made (replayEach Where.builder branches)
      = (.ok (), w.add (.any (made ++ branchExprs (formulasEach branches))) (branchValues (formulasEach branches)))
  | [], w, made => by
    rw [replayEach, Where.addBranches, formulasEach, branchExprs, branchValues, List.append_nil]
  | clause :: rest, w, made => by
    rw [replayEach, Where.addBranches, replay_where clause, formulasEach, branchExprs, branchValues]
    simp only [addAll, Where.empty, List.nil_append, addBranches_where rest, add, List.append_assoc,
      List.singleton_append]

end

end Clause

theorem Sql.ofClause_eq (clause : Clause) : ofClause clause = ⟨exprs clause.formulas, values clause.formulas⟩ := by
  rw [ofClause, Clause.replay_where, Where.addAll, Where.empty, List.nil_append, List.nil_append]

end RowStore
