import RowStore.Clause.Encode

/-!
# Plans

A plan is one query that a store can execute. A find makes two of them: one without bounds, whose rows are
counted, and one with the requested bounds, whose rows are fetched. Nothing is fetched for a page of no rows.
-/

namespace RowStore

set_option autoImplicit false

structure Plan where
  /-- The columns to show, the key first; all of them if there is no list. -/
  select : Option (List String)
  clause : Clause
  sort : List SortKey
  limit : Option Nat
  skip : Option Nat
deriving Repr, Inhabited

structure Plans where
  unbounded : Plan
  paginated : Option Plan
deriving Repr, Inhabited

namespace Plan

def everything : Plan := ⟨none, Clause.trivial, [], none, none⟩

/-- The names in order of first occurrence, after those already taken. -/
def addColumns (taken : List String) : List String → List String
  | [] => taken
  | column :: rest =>
    addColumns (if taken.contains column then taken else taken ++ [column]) rest

/-- Names without repetition, the key first. -/
def keyFirst (key : String) (columns : List String) : List String :=
  addColumns [key] columns

/-- The plans of a query on a table with the given key. -/
def ofQuery (key : String) (query : Query) : Except QueryError Plans := do
  let controls := query.controls
  let clause ← Clause.compile query.predicate
  let unbounded : Plan := ⟨controls.select.map (keyFirst key), clause, controls.sort, none, none⟩
  let paginated :=
    if controls.limit = some 0 then none
    else some { unbounded with
      limit := controls.limit
      skip := controls.skip.filter fun n => decide (0 < n) }
  pure ⟨unbounded, paginated⟩

end Plan

def Value.ofOption {α : Type} (f : α → Value) : Option α → Value
  | some a => f a
  | none => .null

def SortKey.toValue (key : SortKey) : Value :=
  .object [("field", .string key.field), ("direction", .string key.direction.name)]

def Controls.toValue (controls : Controls) : Value :=
  .object [
    ("select", .ofOption (fun names => .array (names.map .string)) controls.select),
    ("sort", .array (controls.sort.map SortKey.toValue)),
    ("limit", .ofOption .ofNat controls.limit),
    ("skip", .ofOption .ofNat controls.skip)]

def Plan.toValue (plan : Plan) : Value :=
  .object [
    ("select", .ofOption (fun names => .array (names.map .string)) plan.select),
    ("clause", plan.clause.toValue),
    ("sort", .array (plan.sort.map SortKey.toValue)),
    ("limit", .ofOption .ofNat plan.limit),
    ("skip", .ofOption .ofNat plan.skip)]

end RowStore
