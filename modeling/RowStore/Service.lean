import RowStore.Result
import RowStore.Service.Error
import RowStore.Storage

/-!
# Services

A service offers one kind of record: it finds, gets, creates, patches, replaces and removes, and asks a storage
for everything. Each operation is built from smaller ones; its failure goes through the hook once, at the very
end. Bulk operations work row by row and stop at the first failure; what is written stays written.
-/

namespace RowStore

set_option autoImplicit false

structure Service (σ : Type) where
  storage : Storage σ
  /-- The field that identifies a record. -/
  id : String
  name : String
  policy : Policy
  events : List String
  /-- What becomes of a failure before the caller sees it. -/
  hook : ServiceError → ServiceError

/-- What a service is made from; parts left out have standard values. -/
structure ServiceOptions (σ : Type) where
  storage : Option (Storage σ)
  id : Option String
  policy : Option Policy
  events : List String
  name : Option String
  hook : Option (ServiceError → ServiceError)

namespace Service

variable {σ α : Type}

def standardId : String := "id"
def standardName : String := "records"

/-- A service needs options and, in them, a storage. -/
def ofOptions : Option (ServiceOptions σ) → Except ServiceError (Service σ)
  | none => .error .noOptions
  | some options =>
    match options.storage with
    | none => .error .noStorage
    | some storage => .ok {
        storage
        id := options.id.getD standardId
        name := options.name.getD standardName
        policy := options.policy.getD .off
        events := options.events
        hook := options.hook.getD fun e => e }

/-- An operation on a storage: what it gives or how it fails, and the state it leaves in either case. -/
abbrev Action (σ : Type) := ExceptT ServiceError (StateM σ)

def Action.on (action : Action σ α) (s : σ) : Except ServiceError α × σ :=
  (action.run.run s)

def ask (request : σ → Reply σ α) : Action σ α :=
  ExceptT.mk fun s =>
    match request s with
    | (.ok answer, s') => (.ok answer, s')
    | (.error report, s') => (.error (.storage report), s')

/-- A step on the query alone. -/
def checked : Except QueryError α → Action σ α
  | .ok a => pure a
  | .error e => throw (.query e)

/-- The outcome of an action as the caller sees it. -/
def report (service : Service σ) (action : Action σ α) : Action σ α :=
  ExceptT.mk fun s =>
    match action.on s with
    | (.ok a, s') => (.ok a, s')
    | (.error e, s') => (.error (service.hook e), s')

/-- The rows of a page and what there is to know about the others. -/
structure Fetched where
  total : Nat
  limit : Option Nat
  skip : Option Nat
  rows : List Record

/-- Counts the rows that match, then fetches those of the page. -/
def findRows (service : Service σ) (query : Fields) (policy : Option Policy) : Action σ Fetched := do
  let q ← checked (Query.ofFields query policy)
  let plans ← checked (Plan.ofQuery service.id q)
  let total ← ask (service.storage.count plans.unbounded)
  let rows ← match plans.paginated with
    | some plan => ask (service.storage.fetch plan)
    | none => pure []
  pure ⟨total, q.controls.limit, q.controls.skip, rows⟩

/-- A page under a policy that makes pages, else the bare rows. -/
def findSelection (service : Service σ) (params : Params) : Action σ Selection := do
  let policy := params.policy.getD service.policy
  let found ← service.findRows params.query (some policy)
  if policy.enabled then
    pure (.page ⟨found.total, found.limit.getD 0, found.skip.getD 0, found.rows⟩)
  else pure (.rows found.rows)

/-- The one row that has a key and satisfies the query as well. -/
def getRow (service : Service σ) (id : Value) (params : Params) : Action σ Record := do
  let found ← service.findRows (Entries.insert service.id id params.query) none
  match found.rows with
  | [row] => pure row
  | _ => throw (.noRecord id)

/-- Inserts a row and reads it back. -/
def createRow (service : Service σ) (params : Params) (attributes : Record) : Action σ Record := do
  let id ← ask (service.storage.insert attributes)
  service.getRow id params

def rowKey (service : Service σ) (row : Record) : Action σ Value :=
  match Record.key? row service.id with
  | some id => pure id
  | none => throw (.noKey service.id)

def writeRow (service : Service σ) (changes : Record) (row : Record) : Action σ Record := do
  let id ← service.rowKey row
  ask (service.storage.update id changes)

/-- Deletes a row; the answer is what it was. -/
def deleteRow (service : Service σ) (row : Record) : Action σ Record := do
  let id ← service.rowKey row
  ask (service.storage.delete id)
  pure row

/-- Does the same to every item in turn, up to the first failure. -/
def each {α β : Type} (f : α → Action σ β) : List α → Action σ (List β)
  | [] => pure []
  | item :: rest => do
    let result ← f item
    let results ← each f rest
    pure (result :: results)

/-- What a replacement writes: every field of the old row but the key, with the new value or null. -/
def replacement (old new : Record) (key : String) : Record :=
  (Entries.names old).filterMap fun field =>
    if field = key then none else some (field, Record.cell new field)

/-- The rows that match, in a page if pages are made. -/
def find (service : Service σ) (params : Params) : Action σ Selection :=
  service.report (service.findSelection params)

def get (service : Service σ) (id : Value) (params : Params) : Action σ Record :=
  service.report (service.getRow id params)

/-- Inserts one record or several; the answer is what is stored. -/
def create (service : Service σ) (data : OneOrMany Record) (params : Params) : Action σ (OneOrMany Record) :=
  service.report (match data with
    | .one attributes => OneOrMany.one <$> service.createRow params attributes
    | .many items => OneOrMany.many <$> each (service.createRow params) items)

/-- Writes fields into the targeted rows; the key is never among them. -/
def patch (service : Service σ) (target : Target) (data : Record) (params : Params) :
    Action σ (OneOrMany Record) :=
  let changes := Entries.erase service.id data
  service.report (match target with
    | .single id => do
      let row ← service.getRow id params
      OneOrMany.one <$> service.writeRow changes row
    | .matching query => do
      let found ← service.findRows query none
      OneOrMany.many <$> each (service.writeRow changes) found.rows)

/-- Replaces the targeted row: fields that the data lack become null. Only one row can be replaced. -/
def update (service : Service σ) (target : Target) (data : Record) (params : Params) : Action σ Record :=
  service.report (match target with
    | .single id => do
      let row ← service.getRow id params
      service.writeRow (replacement row data service.id) row
    | .matching _ => throw .bulkReplacement)

/-- Deletes the targeted rows; the answer is what they were. -/
def remove (service : Service σ) (target : Target) (params : Params) : Action σ (OneOrMany Record) :=
  service.report (match target with
    | .single id => do
      let row ← service.getRow id params
      OneOrMany.one <$> service.deleteRow row
    | .matching query => do
      let found ← service.findRows query none
      OneOrMany.many <$> each service.deleteRow found.rows)

end Service

end RowStore
