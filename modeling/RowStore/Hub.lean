import RowStore.Hub.Config
import RowStore.Hub.MediaType
import RowStore.Hub.Route
import RowStore.Query.Bracket
import RowStore.Service
import RowStore.Url.Form

/-!
# Hubs

A hub serves a table per resource. A request is settled in a fixed order: its route and verb, the text of its
path, its body, the resource, its query, and then the operation. A request that is answered before the operation
changes nothing, and an operation changes the table of its own resource only.
-/

namespace RowStore.Hub

set_option autoImplicit false

structure Resource where
  service : Service Table
  table : Table

/-- The resources by name; a name stands for the last one that has it. -/
structure State where
  resources : Entries Resource

def ResourceConfig.table (config : ResourceConfig) : Table :=
  config.defaults.foldl (fun table entry => table.withDefault entry.1 entry.2)
    (Table.create config.name config.id config.columns)

/-- The service of a resource; its failures are seen as they are. -/
def ResourceConfig.service (config : ResourceConfig) : Service Table where
  storage := Table.storage
  id := config.id
  name := config.name
  policy := config.policy.getD .off
  events := config.events
  hook e := e

def start (config : Config) : State :=
  ⟨Entries.ofList (config.resources.map fun r => (r.name, ⟨r.service, r.table⟩))⟩

structure Request where
  method : String
  /-- The path and the query, as they are sent. -/
  target : String
  mediaType : Option String
  body : String
deriving DecidableEq, Repr

/-- What a response carries: a value, nothing but the announcement of one, or no value of the hub. -/
inductive Content where
  | json (value : Value)
  | announced
  | other
deriving DecidableEq, Repr

structure Response where
  status : Nat
  content : Content
deriving DecidableEq, Repr

namespace Response

def json (status : Nat) (value : Value) : Response := ⟨status, .json value⟩

/-- A refusal that is not the hub's own. -/
def bare (status : Nat) : Response := ⟨status, .other⟩

def refusal (status : Nat) (name message : String) : Response :=
  json status (.object [("name", .string name), ("message", .string message), ("code", .ofNat status)])

def ofError (e : ServiceError) : Response :=
  match e.kind with
  | .notFound => refusal 404 "NotFound" e.message
  | .badRequest => refusal 400 "BadRequest" e.message
  | .config | .storage => refusal 500 "GeneralError" e.message

def unknownResource (name : String) : Response :=
  refusal 404 "NotFound" ("No resource named '" ++ name ++ "'")

def badQuery (message : String) : Response := refusal 400 "BadRequest" message

def withoutValue (response : Response) : Response :=
  match response.content with
  | .json _ => { response with content := .announced }
  | _ => response

end Response

inductive Operation where
  | find (query : Fields)
  | get (id : Value) (query : Fields)
  | create (data : OneOrMany Record)
  | patch (target : Target) (data : Record) (query : Fields)
  | update (target : Target) (data : Record) (query : Fields)
  | remove (target : Target) (query : Fields)
deriving DecidableEq, Repr

def Operation.run (service : Service Table) (table : Table) : Operation → Except ServiceError Value × Table
  | find query => (Selection.toValue <$> service.find (.ofQuery query)).on table
  | get id query => (Value.object <$> service.get id (.ofQuery query)).on table
  | create data => (OneOrMany.toValue <$> service.create data .none).on table
  | patch target data query => (OneOrMany.toValue <$> service.patch target data (.ofQuery query)).on table
  | update target data query => (Value.object <$> service.update target data (.ofQuery query)).on table
  | remove target query => (OneOrMany.toValue <$> service.remove target (.ofQuery query)).on table

def Operation.status : Operation → Nat
  | create _ => 201
  | _ => 200

def bodyRecord (body : Value) : Except Response Record :=
  match body with
  | .object fields => .ok fields
  | _ => .error (.badQuery "request body must be a JSON object")

def decodeQuery (query : List Char) : Except Response Fields :=
  match Bracket.decode (Url.Form.decode query) with
  | .ok fields => .ok fields
  | .error fault => .error (.badQuery fault.message)

/-- The most bytes that a body may have. -/
def bodyLimit : Nat := 2 * 1024 * 1024

/-- The value in the body of a request, if it is announced as JSON and not too long. -/
def bodyValue (request : Request) : Except Response Value :=
  match request.mediaType >>= fun text => MediaType.parse? text.toList with
  | some type =>
    if type.isJson then
      if bodyLimit < request.body.utf8ByteSize then .error (.bare 413)
      else
        match Json.readPrefix? request.body with
        | some (value, _) => .ok value
        | none => .error (.bare 400)
    else .error (.bare 415)
  | none => .error (.bare 415)

/-- What a request asks for: the resource, and the operation as far as it can be read. The operation is read
when the resource is known to exist. -/
structure Call where
  resource : String
  operation : Except Response Operation

def readRecord (query : List Char) (body : Value) : Except Response (Fields × Record) := do
  let query ← decodeQuery query
  let data ← bodyRecord body
  pure (query, data)

def collectionCall (verb : Verb) (resource : String) (query : List Char) (request : Request) :
    Except Response Call :=
  match verb with
  | .get | .head => .ok ⟨resource, (decodeQuery query).map .find⟩
  | .delete => .ok ⟨resource, (decodeQuery query).map fun query => .remove (.matching query) []⟩
  | .post => do
    let body ← bodyValue request
    match OneOrMany.ofValue? body with
    | some data => pure ⟨resource, .ok (.create data)⟩
    | none => .error (.bare 422)
  | .patch => do
    let body ← bodyValue request
    pure ⟨resource, (readRecord query body).map fun (query, data) => .patch (.matching query) data []⟩
  | .put => do
    let body ← bodyValue request
    pure ⟨resource, (readRecord query body).map fun (query, data) => .update (.matching query) data []⟩

def itemCall (verb : Verb) (resource id : String) (query : List Char) (request : Request) :
    Except Response Call :=
  let id := Bracket.key id
  match verb with
  | .get | .head => .ok ⟨resource, (decodeQuery query).map (.get id)⟩
  | .delete => .ok ⟨resource, (decodeQuery query).map (.remove (.single id))⟩
  | .patch => do
    let body ← bodyValue request
    pure ⟨resource, (readRecord query body).map fun (query, data) => .patch (.single id) data query⟩
  | .put => do
    let body ← bodyValue request
    pure ⟨resource, (readRecord query body).map fun (query, data) => .update (.single id) data query⟩
  | .post => .error (.bare 405)

def perform (state : State) (call : Call) : Response × State :=
  match state.resources.lookup call.resource with
  | none => (.unknownResource call.resource, state)
  | some resource =>
    match call.operation with
    | .error refusal => (refusal, state)
    | .ok operation =>
      let (answer, table) := operation.run resource.service resource.table
      let response := match answer with
        | .ok value => .json operation.status value
        | .error e => .ofError e
      (response, ⟨Entries.insert call.resource { resource with table } state.resources⟩)

/-- Whether the hub is well, and what it serves. The time since its start is written as zero. -/
def healthValue (state : State) : Value :=
  let names := (Entries.names state.resources).mergeSort fun a b => decide (a ≤ b)
  .object [("status", .string "ok"), ("uptime_secs", .ofNat 0), ("resources", .array (names.map .string))]

def callOf (route : Route) (verb : Verb) (query : List Char) (request : Request) : Except Response Call :=
  match route with
  | .health => .error (.bare 404)
  | .collection name =>
    match Url.segmentText? name with
    | some name => collectionCall verb name query request
    | none => .error (.bare 400)
  | .item name id =>
    match Url.segmentText? name, Url.segmentText? id with
    | some name, some id => itemCall verb name id query request
    | _, _ => .error (.bare 400)

def answerRoute (state : State) (route : Route) (verb : Verb) (query : List Char) (request : Request) :
    Response × State :=
  if route = .health then (.json 200 (healthValue state), state)
  else match callOf route verb query request with
    | .ok call => perform state call
    | .error refusal => (refusal, state)

/-- Answers a request. The answer to a request for the head only says that there would be a value; a question
for what is allowed is answered before it is looked at. -/
def answer (state : State) (request : Request) : Response × State :=
  if request.method = "OPTIONS" then (.bare 200, state)
  else
    let (path, query) := splitTarget request.target
    match Route.ofPath? path with
    | none => (.bare 404, state)
    | some route =>
      match Verb.ofName? request.method with
      | none => (.bare 405, state)
      | some verb =>
        if route.allows verb then
          let (response, state) := answerRoute state route verb query request
          (if verb = .head then response.withoutValue else response, state)
        else (.bare 405, state)

/-- Whether a tag of a request is sent back with the response. -/
def echoes (request : Request) (tag : String) : Bool :=
  request.method != "OPTIONS" && tag.toList.all MediaType.isFieldChar

end RowStore.Hub
