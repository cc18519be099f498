import RowStore.Clause.Compile

/-!
# Clauses

A clause is a predicate that has been checked: conditions, conjunctions and alternatives, kept as a tree. A tree
can be given to any builder again, and the builder that makes trees gives it back, with conjunctions inside
conjunctions flattened.
-/

namespace RowStore

set_option autoImplicit false

inductive Clause where
  | condition (c : Condition)
  | all (clauses : List Clause)
  | any (branches : List Clause)
deriving Repr, Inhabited

namespace Clause

def trivial : Clause := all []

/-- The branches that steps build, each from nothing, up to the first fault. -/
def buildBranches : List (Step (List Clause)) → Except QueryError (List Clause)
  | [] => .ok []
  | step :: rest =>
    match step [] with
    | (.ok (), clauses) => (buildBranches rest).map (all clauses :: ·)
    | (.error e, _) => .error e

/-- Builds a tree; the state is the conjunction made so far. -/
def builder : Builder (List Clause) where
  condition c clauses := clauses ++ [condition c]
  alternative steps clauses :=
    match buildBranches steps with
    | .ok branches => (.ok (), clauses ++ [any branches])
    | .error e => (.error e, clauses)

def build (step : Step (List Clause)) : Except QueryError Clause :=
  match step [] with
  | (.ok (), clauses) => .ok (all clauses)
  | (.error e, _) => .error e

def compile (predicate : Predicate) : Except QueryError Clause :=
  build (builder.compile predicate)

mutual

/-- Gives a clause to a builder, call by call. -/
def replay {σ : Type} (b : Builder σ) : Clause → Step σ
  | .condition c => .change (b.condition c)
  | .all clauses => replayAll b clauses
  | .any branches => b.alternative (replayEach b branches)

def replayAll {σ : Type} (b : Builder σ) : List Clause → Step σ
  | [] => .skip
  | clause :: rest => (replay b clause).andThen (replayAll b rest)

def replayEach {σ : Type} (b : Builder σ) : List Clause → List (Step σ)
  | [] => []
  | clause :: rest => replay b clause :: replayEach b rest

end

mutual

/-- Whether a clause asks nothing of a row. -/
def isEmpty : Clause → Bool
  | .condition _ => false
  | .all clauses => allEmpty clauses
  | .any _ => false

def allEmpty : List Clause → Bool
  | [] => true
  | clause :: rest => isEmpty clause && allEmpty rest

end

end Clause

end RowStore
