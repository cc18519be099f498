import RowStore.Clause.Builder
import RowStore.Query

/-!
# From predicates to builder calls

A field with a plain value is an equation, a field with an object of operators one condition per operator, and
the reserved name for alternatives opens one branch per item of its list. Calls are made as the entries are met,
so a fault is the first one in that order, and the calls before it have been made.
-/

namespace RowStore

set_option autoImplicit false

def Predicate.orKey : String := "$or"

def Predicate.isReserved (name : String) : Bool :=
  name.toList.head? == some '$'

def Predicate.maxDepth : Nat := 16

def Operator.condition (op : Operator) (column : String) (operand : Value) : Except QueryError Condition :=
  match op with
  | notEqual => .ok (.notEqual column operand)
  | oneOf => match operand with
    | .array items => .ok (.oneOf column items)
    | _ => .error (.expectedArray column op)
  | noneOf => match operand with
    | .array items => .ok (.noneOf column items)
    | _ => .error (.expectedArray column op)
  | less => .ok (.compare column .less operand)
  | atMost => .ok (.compare column .atMost operand)
  | greater => .ok (.compare column .greater operand)
  | atLeast => .ok (.compare column .atLeast operand)
  | like => if operand.isString then .ok (.compare column .like operand) else .error (.expectedString column op)

def Condition.ofEntry (column : String) (entry : String × Value) : Except QueryError Condition :=
  match Operator.ofKey? entry.1 with
  | some op => op.condition column entry.2
  | none =>
    if Predicate.isReserved entry.1 then .error (.unknownOperator entry.1)
    else .error (.unexpectedField column entry.1)

namespace Builder

variable {σ : Type}

/-- One condition per operator, up to the first fault. -/
def compileOperators (b : Builder σ) (column : String) : List (String × Value) → Step σ
  | [] => .skip
  | entry :: rest => (b.put (Condition.ofEntry column entry)).andThen (b.compileOperators column rest)

def isBranch (value : Value) : Bool := value.fields?.isSome

mutual

/-- The entries of a predicate, up to the first fault. -/
def compileEntries (b : Builder σ) (depth : Nat) : List (String × Value) → Step σ
  | [] => .skip
  | (name, value) :: rest => (b.compileEntry depth name value).andThen (b.compileEntries depth rest)

/-- One entry. A list of alternatives has to hold objects only, before the first of them is
entered; an empty list asks nothing. -/
def compileEntry (b : Builder σ) (depth : Nat) (name : String) (value : Value) : Step σ :=
  if name = Predicate.orKey then
    match value with
    | .array [] => .skip
    | .array items =>
      if items.all isBranch then b.alternative (b.compileBranches (depth + 1) items) else .fail .invalidOr
    | _ => .fail .invalidOr
  else if Predicate.isReserved name then .fail (.unknownOperator name)
  else match value with
    | .object operators => b.compileOperators name operators
    | scalar => .change (b.condition (.compare name .equal scalar))

def compileBranches (b : Builder σ) (depth : Nat) : List Value → List (Step σ)
  | [] => []
  | item :: rest => b.compileBranch depth item :: b.compileBranches depth rest

/-- A branch is a predicate again, one level deeper. -/
def compileBranch (b : Builder σ) (depth : Nat) (item : Value) : Step σ :=
  match item with
  | .object fields =>
    if Predicate.maxDepth < depth then .fail (.tooDeep Predicate.maxDepth)
    else b.compileEntries depth fields
  | _ => .fail .invalidOr

end

/-- Gives a predicate to a builder. -/
def compile (b : Builder σ) (predicate : Predicate) : Step σ :=
  b.compileEntries 0 predicate

end Builder

end RowStore
