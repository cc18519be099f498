import RowStore.Clause

/-!
# Traces

The calls that a builder receives, written down one after the other. An alternative is announced with the number
of its branches, each branch with its place, and the end of it is written when no branch failed.
-/

namespace RowStore

set_option autoImplicit false

inductive Call where
  | condition (c : Condition)
  | alternative (branches : Nat)
  | branch (index : Nat)
  | close
deriving DecidableEq, Repr, Inhabited

namespace Trace

/-- Runs the branches on the same record, each announced, up to the first fault. -/
def branches (index : Nat) : List (Step (List Call)) → Step (List Call)
  | [] => .skip
  | step :: rest =>
    (Step.change (· ++ [Call.branch index])).andThen (step.andThen (branches (index + 1) rest))

def builder : Builder (List Call) where
  condition c calls := calls ++ [.condition c]
  alternative steps :=
    (Step.change (· ++ [Call.alternative steps.length])).andThen
      ((branches 0 steps).andThen (Step.change (· ++ [Call.close])))

end Trace

def Clause.calls (clause : Clause) : List Call :=
  (clause.replay Trace.builder []).2

end RowStore
