import RowStore.Query.Operator

/-!
# Faults of a query

Each constructor is one reason why a query object has no plan. All of them are mistakes of the caller.
-/

namespace RowStore

set_option autoImplicit false

inductive QueryError where
  | notAnObject
  | unknownOperator (key : String)
  /-- A plain name among the operators of a column. -/
  | unexpectedField (column field : String)
  | invalidOr
  | expectedArray (column : String) (operator : Operator)
  | expectedString (column : String) (operator : Operator)
  | invalidNumber (control : String)
  | invalidSort (field : String)
  | invalidSelect
  | tooDeep (levels : Nat)
deriving DecidableEq, Repr

def QueryError.message : QueryError → String
  | notAnObject => "query must be an object"
  | unknownOperator key => "unknown query operator '" ++ key ++ "'"
  | unexpectedField column field =>
    "'" ++ field ++ "' is not an operator and cannot be nested under '" ++ column ++ "'"
  | invalidOr => "'$or' expects an array of query objects"
  | expectedArray column operator => "'" ++ operator.key ++ "' on '" ++ column ++ "' expects an array"
  | expectedString column operator => "'" ++ operator.key ++ "' on '" ++ column ++ "' expects a string"
  | invalidNumber control => "'" ++ control ++ "' must be an integer"
  | invalidSort field => "invalid sort direction for '" ++ field ++ "'"
  | invalidSelect => "'$select' expects an array of field names"
  | tooDeep levels => "query nesting exceeds " ++ toString levels ++ " levels"

end RowStore
