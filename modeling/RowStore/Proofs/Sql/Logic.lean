import RowStore.Clause.Holds
import RowStore.Proofs.Sql.Reading

/-!
# Logics for conditions

A logic says how an atom comes out of a cell and its operands, and how the results are put together. Every logic gives a
value to the formulas of a clause, and to the formulas that are read back from their text the same value. What the
connectives of a logic have in common with the satisfaction of clauses is carried from conditions to whole clauses.
-/

namespace RowStore

set_option autoImplicit false

namespace Sql

structure Logic (α : Type) where
  ofBool : Bool → α
  and : α → α → α
  or : α → α → α
  compare : Comparison → Value → Value → α
  differs : Value → Value → α
  among : Value → List Value → α
  notAmong : Value → List Value → α
  yes_and : ∀ a, and (ofBool true) a = a
  and_yes : ∀ a, and a (ofBool true) = a
  and_assoc : ∀ a b c, and (and a b) c = and a (and b c)
  or_no : ∀ a, or a (ofBool false) = a

variable {α : Type}

mutual

def Formula.eval (l : Logic α) (row : Record) : Formula → α
  | .constant b => l.ofBool b
  | .nullTest column negated => l.ofBool ((row.cell column).isNull != negated)
  | .compare column op operand => l.compare op (row.cell column) operand
  | .differs column operand => l.differs (row.cell column) operand
  | .among column operands => l.among (row.cell column) operands
  | .notAmong column operands => l.notAmong (row.cell column) operands
  | .any branches => evalSome l row branches

/-- The value of a disjunction of conjunctions. -/
def evalSome (l : Logic α) (row : Record) : List (List Formula) → α
  | [] => l.ofBool false
  | branch :: rest => l.or (evalAll l row branch) (evalSome l row rest)

def evalAll (l : Logic α) (row : Record) : List Formula → α
  | [] => l.ofBool true
  | f :: rest => l.and (f.eval l row) (evalAll l row rest)

end

section

variable (l : Logic α) (row : Record)

theorem evalAll_singleton (f : Formula) : evalAll l row [f] = f.eval l row := by
  rw [evalAll, evalAll, l.and_yes]

theorem evalSome_singleton (fs : List Formula) : evalSome l row [fs] = evalAll l row fs := by
  rw [evalSome, evalSome, l.or_no]

/-- Parentheses of its own around a branch change nothing. -/
theorem evalAll_parens (fs : List Formula) : evalAll l row [.any [fs]] = evalAll l row fs := by
  rw [evalAll_singleton, Formula.eval, evalSome_singleton]

theorem evalAll_append (fs gs : List Formula) :
    evalAll l row (fs ++ gs) = l.and (evalAll l row fs) (evalAll l row gs) := by
  induction fs with
  | nil => rw [List.nil_append, evalAll, l.yes_and]
  | cons f rest ih => rw [List.cons_append, evalAll, evalAll, ih, l.and_assoc]

mutual

theorem eval_readBack : ∀ f : Formula, f.readBack.eval l row = f.eval l row
  | .constant _ => by rw [Formula.readBack]
  | .nullTest _ _ => by rw [Formula.readBack]
  | .compare _ _ _ => by rw [Formula.readBack]
  | .differs _ _ => by rw [Formula.readBack]
  | .among _ _ => by rw [Formula.readBack]
  | .notAmong _ _ => by rw [Formula.readBack]
  | .any branches => by
    rw [Formula.readBack, Formula.eval, Formula.eval]
    exact evalSome_readBackEach branches

theorem evalSome_readBackEach : ∀ branches : List (List Formula),
    evalSome l row (readBackEach branches) = evalSome l row branches
  | [] => by rw [readBackEach]
  | [] :: rest => by
    rw [readBackEach, evalSome, evalSome, evalAll_parens, evalAll_singleton, Formula.eval, evalAll,
      evalSome_readBackEach rest]
  | (f :: more) :: rest => by
    rw [readBackEach, evalSome, evalSome, evalAll_parens, evalAll, evalAll, eval_readBack f, evalAll_readBackAll more,
      evalSome_readBackEach rest]

theorem evalAll_readBackAll : ∀ fs : List Formula, evalAll l row (readBackAll fs) = evalAll l row fs
  | [] => by rw [readBackAll]
  | f :: rest => by rw [readBackAll, evalAll, evalAll, eval_readBack f, evalAll_readBackAll rest]

end

end

/-- A relation of what holds and what comes out in a logic, kept by constants and connectives. -/
structure Logic.Relates (l : Logic α) (R : Bool → α → Prop) : Prop where
  ofBool : ∀ b, R b (l.ofBool b)
  and : ∀ {b c : Bool} {x y : α}, R b x → R c y → R (b && c) (l.and x y)
  or : ∀ {b c : Bool} {x y : α}, R b x → R c y → R (b || c) (l.or x y)

end Sql

open Sql

namespace Clause

mutual

def conditions : Clause → List Condition
  | .condition c => [c]
  | .all clauses => conditionsOf clauses
  | .any branches => conditionsOf branches

def conditionsOf : List Clause → List Condition
  | [] => []
  | clause :: rest => conditions clause ++ conditionsOf rest

end

mutual

def map (g : Condition → Condition) : Clause → Clause
  | .condition c => .condition (g c)
  | .all clauses => .all (mapEach g clauses)
  | .any branches => .any (mapEach g branches)

def mapEach (g : Condition → Condition) : List Clause → List Clause
  | [] => []
  | clause :: rest => map g clause :: mapEach g rest

end

mutual

theorem map_id : ∀ clause : Clause, clause.map id = clause
  | .condition c => by rw [map, id]
  | .all clauses => by rw [map, mapEach_id clauses]
  | .any branches => by rw [map, mapEach_id branches]

theorem mapEach_id : ∀ clauses : List Clause, mapEach id clauses = clauses
  | [] => by rw [mapEach]
  | clause :: rest => by rw [mapEach, map_id clause, mapEach_id rest]

end

section

variable {α : Type} {l : Logic α} {R : Bool → α → Prop} (row : Record) (g : Condition → Condition)

mutual

/-- What relates the conditions of a clause to the formulas that they are rendered as relates the clause to its formulas. -/
theorem relates_formulas (hR : l.Relates R) : ∀ clause : Clause,
    (∀ c ∈ clause.conditions, R (c.holds row) ((g c).formula.eval l row)) →
    R (clause.holds row) (evalAll l row (clause.map g).formulas)
  | .condition c, h => by
    rw [map, formulas, evalAll_singleton, holds]
    exact h c (by simp [conditions])
  | .all clauses, h => by
    rw [map, formulas, holds]
    exact relates_formulasAll hR clauses h
  | .any branches, h => by
    rw [map, formulas, evalAll_singleton, Formula.eval, holds]
    exact relates_formulasEach hR branches h

theorem relates_formulasAll (hR : l.Relates R) : ∀ clauses : List Clause,
    (∀ c ∈ conditionsOf clauses, R (c.holds row) ((g c).formula.eval l row)) →
    R (holdsAll row clauses) (evalAll l row (formulasAll (mapEach g clauses)))
  | [], _ => by
    rw [mapEach, formulasAll, evalAll, holdsAll]
    exact hR.ofBool true
  | clause :: rest, h => by
    rw [conditionsOf, List.forall_mem_append] at h
    rw [mapEach, formulasAll, evalAll_append, holdsAll]
    exact hR.and (relates_formulas hR clause h.1) (relates_formulasAll hR rest h.2)

theorem relates_formulasEach (hR : l.Relates R) : ∀ branches : List Clause,
    (∀ c ∈ conditionsOf branches, R (c.holds row) ((g c).formula.eval l row)) →
    R (holdsAny row branches) (evalSome l row (formulasEach (mapEach g branches)))
  | [], _ => by
    rw [mapEach, formulasEach, evalSome, holdsAny]
    exact hR.ofBool false
  | clause :: rest, h => by
    rw [conditionsOf, List.forall_mem_append] at h
    rw [mapEach, formulasEach, evalSome, holdsAny]
    exact hR.or (relates_formulas hR clause h.1) (relates_formulasEach hR rest h.2)

end

end

end Clause

end RowStore
