import RowStore.Query.Operator
import RowStore.Value

/-!
# Conditions

What a row is asked about one of its columns.
-/

namespace RowStore

set_option autoImplicit false

inductive Condition where
  | compare (column : String) (op : Comparison) (operand : Value)
  | notEqual (column : String) (operand : Value)
  | oneOf (column : String) (operands : List Value)
  | noneOf (column : String) (operands : List Value)
deriving DecidableEq, Repr, Inhabited

namespace Condition

def column : Condition → String
  | compare column _ _ | notEqual column _ | oneOf column _ | noneOf column _ => column

end Condition

end RowStore
