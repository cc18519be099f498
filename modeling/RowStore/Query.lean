import RowStore.Query.Controls

/-!
# Queries

A query object holds controls and, in all its other entries, the predicate that rows have to satisfy. Splitting
it reads the controls in the order of the entries, so the first faulty one is reported; the predicate keeps its
entries as they are and is looked at later.
-/

namespace RowStore

set_option autoImplicit false

/-- The entries of a query that filter rows. -/
abbrev Predicate := Fields

structure Query where
  controls : Controls
  predicate : Predicate
deriving DecidableEq, Repr, Inhabited

namespace Query

/-- The entries that are no controls, in their order. -/
def predicateOf (fields : Fields) : Predicate :=
  fields.filter fun entry => !Controls.keys.contains entry.1

/-- Splits a query object; a policy, if there is one, settles the page size. -/
def ofFields (fields : Fields) (policy : Option Policy) : Except QueryError Query := do
  let controls ← fields.foldlM Controls.read Controls.none
  let limit := match policy with
    | some policy => policy.resolve controls.limit
    | none => controls.limit
  pure ⟨{ controls with limit }, predicateOf fields⟩

/-- Splits a query of any kind; null is the empty query. -/
def ofValue (query : Value) (policy : Option Policy) : Except QueryError Query :=
  match query with
  | .object fields => ofFields fields policy
  | .null => ofFields [] policy
  | _ => .error .notAnObject

end Query

end RowStore
