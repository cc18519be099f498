import RowStore.Clause

/-!
# Clauses as values

A written clause names its kind first, then its parts.
-/

namespace RowStore

set_option autoImplicit false

/-- An object whose kind is its first field. -/
def Value.tagged (kind : String) (fields : Fields) : Value :=
  .object (("type", .string kind) :: fields)

def Condition.toValue : Condition → Value
  | compare column op operand =>
    .tagged "compare" [("column", .string column), ("op", .string op.name), ("value", operand)]
  | notEqual column operand => .tagged "not_equal" [("column", .string column), ("value", operand)]
  | oneOf column operands => .tagged "in" [("column", .string column), ("values", .array operands)]
  | noneOf column operands => .tagged "not_in" [("column", .string column), ("values", .array operands)]

namespace Clause

mutual

def toValue : Clause → Value
  | .condition c => c.toValue
  | .all clauses => .tagged "all" [("clauses", .array (toValues clauses))]
  | .any branches => .tagged "any" [("branches", .array (toValues branches))]

def toValues : List Clause → List Value
  | [] => []
  | clause :: rest => toValue clause :: toValues rest

end

end Clause

end RowStore
