import RowStore.Table

/-!
# Storages

What a service needs of the place where rows are kept: counting, fetching and writing, each of which may fail
with a report and may change the state. A table is a storage that changes only by writes that succeed.
-/

namespace RowStore

set_option autoImplicit false

/-- What an operation gives, or the report of its failure, and the state it leaves. -/
abbrev Reply (σ α : Type) := Except String α × σ

structure Storage (σ : Type) where
  count : Plan → σ → Reply σ Nat
  fetch : Plan → σ → Reply σ (List Record)
  insert : Record → σ → Reply σ Value
  update : Value → Record → σ → Reply σ Record
  delete : Value → σ → Reply σ Unit

namespace Table

/-- The outcome of a write as a reply; a failed one leaves the table. -/
def replyOf {α : Type} (table : Table) : Except TableError (α × Table) → Reply Table α
  | .ok (answer, next) => (.ok answer, next)
  | .error e => (.error e.message, table)

def storage : Storage Table where
  count plan table := (.ok (table.count plan), table)
  fetch plan table := (.ok (table.fetch plan), table)
  insert attributes table := table.replyOf (table.insert attributes)
  update id changes table := table.replyOf (table.update id changes)
  delete id table := table.replyOf ((table.delete id).map fun next => ((), next))

end Table

namespace Storage

/-- An operation asked of a storage. -/
inductive Request where
  | count (plan : Plan)
  | fetch (plan : Plan)
  | insert (attributes : Record)
  | update (id : Value) (changes : Record)
  | delete (id : Value)
deriving Repr

inductive Method where
  | count | fetch | insert | update | delete
deriving DecidableEq, Repr

namespace Request

def method : Request → Method
  | count _ => .count
  | fetch _ => .fetch
  | insert _ => .insert
  | update _ _ => .update
  | delete _ => .delete

def isWrite : Request → Bool
  | count _ | fetch _ => false
  | insert _ | update _ _ | delete _ => true

end Request

/-- The `call`-th request of a method, from one, is to fail with a report. -/
structure Failure where
  method : Method
  call : Nat
  report : String
deriving DecidableEq, Repr

/-- A state together with every request so far. -/
structure Watched (σ : Type) where
  requests : List Request
  state : σ

variable {σ : Type}

/-- The report of the failure that is due after some requests of which the last is of a method. -/
def due? (failures : List Failure) (method : Method) (requests : List Request) : Option String :=
  let calls := requests.countP fun r => r.method == method
  (failures.find? fun f => f.method == method && f.call == calls).map Failure.report

/-- Writes a request down and then passes it on, unless it is to fail. -/
def watch {α : Type} (failures : List Failure) (request : Request) (pass : σ → Reply σ α)
    (w : Watched σ) : Reply (Watched σ) α :=
  let requests := w.requests ++ [request]
  match due? failures request.method requests with
  | some report => (.error report, ⟨requests, w.state⟩)
  | none =>
    let (answer, state) := pass w.state
    (answer, ⟨requests, state⟩)

/-- The storage that writes down what is asked of it, and fails where it is told to. -/
def watched (storage : Storage σ) (failures : List Failure) : Storage (Watched σ) where
  count plan := watch failures (.count plan) (storage.count plan)
  fetch plan := watch failures (.fetch plan) (storage.fetch plan)
  insert attributes := watch failures (.insert attributes) (storage.insert attributes)
  update id changes := watch failures (.update id changes) (storage.update id changes)
  delete id := watch failures (.delete id) (storage.delete id)

end Storage

end RowStore
