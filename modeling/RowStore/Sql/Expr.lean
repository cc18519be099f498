import RowStore.Clause

/-!
# Conditions in SQL

A condition is built as a tree and a list of bound values, in the order of their placeholders; its text is
written from the tree. Names are always quoted and values always bound, so neither can be taken for a word of
the language.
-/

namespace RowStore.Sql

set_option autoImplicit false

/-- A condition without its bound values. Each atom but the constant one names a column. -/
inductive Expr where
  | never
  | isNull (column : String)
  | isNotNull (column : String)
  | compare (column : String) (op : Comparison)
  | differs (column : String)
  | among (column : String) (count : Nat)
  | notAmong (column : String) (count : Nat)
  | always
  | any (branches : List (List Expr))
deriving Repr, Inhabited

/-- A name between double quotes; a quote inside it is doubled. -/
def quoteChars (name : String) : List Char :=
  '"' :: name.toList.flatMap (fun c => if c = '"' then ['"', '"'] else [c]) ++ ['"']

def quote (name : String) : String :=
  String.ofList (quoteChars name)

def joined (separator : List Char) : List (List Char) → List Char
  | [] => []
  | [piece] => piece
  | piece :: more => piece ++ separator ++ joined separator more

/-- Placeholders with commas between them, in parentheses. -/
def placeholders (count : Nat) : List Char :=
  '(' :: joined ", ".toList (List.replicate count ['?']) ++ [')']

mutual

def Expr.chars : Expr → List Char
  | .never => "1 = 0".toList
  | .isNull column => quoteChars column ++ " IS NULL".toList
  | .isNotNull column => quoteChars column ++ " IS NOT NULL".toList
  | .compare column op => quoteChars column ++ ' ' :: op.symbol.toList ++ " ?".toList
  | .differs column => quoteChars column ++ " <> ?".toList
  | .among column count => quoteChars column ++ " IN ".toList ++ placeholders count
  | .notAmong column count => quoteChars column ++ " NOT IN ".toList ++ placeholders count
  | .always => "1 = 1".toList
  | .any branches => '(' :: joined " OR ".toList (branchChars branches) ++ [')']

/-- The texts of the branches, each in parentheses; one that asks nothing is written as a truth. -/
def branchChars : List (List Expr) → List (List Char)
  | [] => []
  | [] :: rest => ('(' :: "1 = 1".toList ++ [')']) :: branchChars rest
  | branch :: rest => ('(' :: joined " AND ".toList (allChars branch) ++ [')']) :: branchChars rest

def allChars : List Expr → List (List Char)
  | [] => []
  | expr :: rest => expr.chars :: allChars rest

end

def conjunctionChars (exprs : List Expr) : List Char :=
  joined " AND ".toList (allChars exprs)

/-- A conjunction in the making, with the values bound so far. -/
structure Where where
  exprs : List Expr
  params : List Value
deriving Repr, Inhabited

namespace Where

def empty : Where := ⟨[], []⟩

def add (w : Where) (expr : Expr) (params : List Value) : Where :=
  ⟨w.exprs ++ [expr], w.params ++ params⟩

/-- Appends a condition. A comparison with null is a test for null, and membership in no values is decided. -/
def addCondition (w : Where) : Condition → Where
  | .compare column op operand =>
    if operand.isNull ∧ op = .equal then w.add (.isNull column) []
    else w.add (.compare column op) [operand]
  | .notEqual column operand =>
    if operand.isNull then w.add (.isNotNull column) [] else w.add (.differs column) [operand]
  | .oneOf column operands =>
    if operands = [] then w.add .never [] else w.add (.among column operands.length) operands
  | .noneOf column operands =>
    if operands = [] then w.add .always [] else w.add (.notAmong column operands.length) operands

/-- Appends an alternative of the branches made so far and those that steps build, each from nothing. The values of a
branch are bound as soon as it is built, and stay bound when a later one fails. -/
def addBranches (w : Where) (branches : List (List Expr)) : List (Step Where) → Except QueryError Unit × Where
  | [] => (.ok (), w.add (.any branches) [])
  | step :: rest =>
    match step empty with
    | (.ok (), branch) => addBranches ⟨w.exprs, w.params ++ branch.params⟩ (branches ++ [branch.exprs]) rest
    | (.error e, _) => (.error e, w)

def builder : Builder Where where
  condition c w := w.addCondition c
  alternative steps w := w.addBranches [] steps

/-- The text, unless nothing is asked. -/
def text? (w : Where) : Option String :=
  if w.exprs.isEmpty then none else some (String.ofList (conjunctionChars w.exprs))

end Where

def ofClause (clause : Clause) : Where :=
  (clause.replay Where.builder .empty).2

end RowStore.Sql
