import RowStore.Clause
import RowStore.Text.Pattern
import RowStore.Value.Order

/-!
# Rows that satisfy a clause

A missing column reads as null, and null satisfies nothing but the tests for null: it is neither equal nor
unequal to anything, before or after anything, in or out of any list that is not empty.
-/

namespace RowStore

set_option autoImplicit false

/-- How a comparison of two values that are not null comes out. -/
def Comparison.relates (op : Comparison) (a b : Value) : Bool :=
  match op with
  | equal => a.same b
  | less => a.order b == .lt
  | atMost => a.order b != .gt
  | greater => a.order b == .gt
  | atLeast => a.order b != .lt
  | like => Text.Pattern.fits a.text b.text

/-- Whether a cell stands in a relation to an operand. Equality with null is the test for null. -/
def Comparison.holds (op : Comparison) (cell operand : Value) : Bool :=
  if op = equal ∧ operand.isNull then cell.isNull
  else if cell.isNull || operand.isNull then false
  else op.relates cell operand

def Condition.holds (row : Record) : Condition → Bool
  | compare column op operand => op.holds (row.cell column) operand
  | notEqual column operand =>
    let cell := row.cell column
    if operand.isNull then !cell.isNull else !cell.isNull && !cell.same operand
  | oneOf column operands =>
    let cell := row.cell column
    !cell.isNull && operands.any cell.same
  | noneOf column operands =>
    let cell := row.cell column
    operands.isEmpty || (!cell.isNull && !operands.any cell.same)

namespace Clause

mutual

def holds (row : Record) : Clause → Bool
  | .condition c => c.holds row
  | .all clauses => holdsAll row clauses
  | .any branches => holdsAny row branches

def holdsAll (row : Record) : List Clause → Bool
  | [] => true
  | clause :: rest => holds row clause && holdsAll row rest

def holdsAny (row : Record) : List Clause → Bool
  | [] => false
  | clause :: rest => holds row clause || holdsAny row rest

end

end Clause

end RowStore
