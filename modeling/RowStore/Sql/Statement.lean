import RowStore.Plan
import RowStore.Sql.Expr

/-!
# Statements

A plan as one SQL statement and its bound values: either the rows it selects or their number.
-/

namespace RowStore.Sql

set_option autoImplicit false

structure Statement where
  sql : String
  params : List Value
deriving Repr, Inhabited

/-- The part that says which rows. -/
def whereChars (w : Where) : List Char :=
  if w.exprs.isEmpty then [] else " WHERE ".toList ++ conjunctionChars w.exprs

def columnChars : Option (List String) → List Char
  | some columns => joined ", ".toList (columns.map quoteChars)
  | none => ['*']

def orderChars (sort : List SortKey) : List Char :=
  if sort.isEmpty then []
  else " ORDER BY ".toList ++ joined ", ".toList
    (sort.map fun key => quoteChars key.field ++ ' ' :: key.direction.symbol.toList)

/-- The part that cuts a page out. Rows are passed over only under a limit, so an endless one is written. -/
def pageChars (limit skip : Option Nat) : List Char :=
  match limit, skip with
  | some limit, some skip =>
    " LIMIT ".toList ++ Nat.toDigits 10 limit ++ " OFFSET ".toList ++ Nat.toDigits 10 skip
  | some limit, none => " LIMIT ".toList ++ Nat.toDigits 10 limit
  | none, some skip => " LIMIT -1 OFFSET ".toList ++ Nat.toDigits 10 skip
  | none, none => []

def select (table : String) (plan : Plan) : Statement :=
  let w := ofClause plan.clause
  ⟨String.ofList ("SELECT ".toList ++ columnChars plan.select ++ " FROM ".toList ++ quoteChars table
    ++ whereChars w ++ orderChars plan.sort ++ pageChars plan.limit plan.skip), w.params⟩

/-- The number of rows of a plan without its bounds; what is shown and in which order does not matter. -/
def count (table : String) (plan : Plan) : Statement :=
  let w := ofClause plan.clause
  ⟨String.ofList ("SELECT COUNT(*) AS \"count\" FROM ".toList ++ quoteChars table ++ whereChars w), w.params⟩

end RowStore.Sql
