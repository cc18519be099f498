/-!
# Operators

The operators that a field of a predicate may carry, and the comparisons that most of them stand for. The other
three have conditions of their own.
-/

namespace RowStore

set_option autoImplicit false

/-- A comparison of a cell with one operand. -/
inductive Comparison where
  | equal | less | atMost | greater | atLeast | like
deriving DecidableEq, Repr, Inhabited

namespace Comparison

def all : List Comparison := [equal, less, atMost, greater, atLeast, like]

def name : Comparison → String
  | equal => "eq"
  | less => "lt"
  | atMost => "lte"
  | greater => "gt"
  | atLeast => "gte"
  | like => "like"

def symbol : Comparison → String
  | equal => "="
  | less => "<"
  | atMost => "<="
  | greater => ">"
  | atLeast => ">="
  | like => "LIKE"

def ofName? (name : String) : Option Comparison :=
  all.find? fun c => c.name = name

end Comparison

inductive Operator where
  | notEqual | oneOf | noneOf | less | atMost | greater | atLeast | like
deriving DecidableEq, Repr, Inhabited

namespace Operator

def all : List Operator := [notEqual, oneOf, noneOf, less, atMost, greater, atLeast, like]

def key : Operator → String
  | notEqual => "$ne"
  | oneOf => "$in"
  | noneOf => "$nin"
  | less => "$lt"
  | atMost => "$lte"
  | greater => "$gt"
  | atLeast => "$gte"
  | like => "$like"

def ofKey? (key : String) : Option Operator :=
  all.find? fun op => op.key = key

/-- The comparison that an operator stands for, if it has no condition of its own. -/
def comparison? : Operator → Option Comparison
  | less => some .less
  | atMost => some .atMost
  | greater => some .greater
  | atLeast => some .atLeast
  | like => some .like
  | notEqual | oneOf | noneOf => none

end Operator

end RowStore
