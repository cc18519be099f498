import RowStore.Client.Command
import RowStore.Client.Listing
import RowStore.Client.Reply
import RowStore.Json.Reader
import RowStore.Text.Literal
import RowStore.Url
import RowStore.Verb

/-!
# Clients

A command becomes one request to a hub, and the reply to it becomes a text to show. The query of a command is
read first, then its data, then the address; the first fault is the answer, and then nothing is sent.
-/

namespace RowStore.Client

set_option autoImplicit false

structure Request where
  verb : Verb
  url : Url
  body : Option Value
deriving DecidableEq, Repr

inductive Fault where
  | notJson (text : String)
  | queryNotObject
  | url (fault : Url.Fault)
  | otherScheme (url : Url)
  | unsendable (url : Url)
  | broken (url : Url) (fault : ReplyFault)
  | replyNotJson
  | refused (status : Nat) (message : String)
deriving DecidableEq, Repr

def Fault.message : Fault → String
  | notJson text => "invalid JSON " ++ Text.literal text
  | queryNotObject => "--query must be a JSON object"
  | url fault => "builder error: " ++ fault.message
  | otherScheme target => "builder error for url (" ++ target.text ++ "): URL scheme is not allowed"
  | unsendable target => "builder error for url (" ++ target.text ++ "): Parsed Url is not a valid Uri"
  | broken target fault => "error sending request for url (" ++ target.text ++ "): " ++ fault.message
  | replyNotJson => "error decoding response body"
  | refused status message => Status.text status ++ ": " ++ message

/-- Where a hub is found when nothing is said. -/
def standardBase : String := "http://127.0.0.1:3030"

def readText (text : String) : Except Fault Value :=
  match Json.read? text with
  | some value => .ok value
  | none => .error (.notJson text)

def readQuery : Option String → Except Fault (Option Value)
  | none => .ok none
  | some text => do
    match ← readText text with
    | .object fields => pure (some (.object fields))
    | _ => .error .queryNotObject

def schemes : List String := ["http", "https"]

def longestUrl : Nat := 65534

/-- Whether an address can be sent: some marks may stand in the name of a host, but are not sent in one. -/
def isSendable (url : Url) : Bool :=
  url.text.utf8ByteSize ≤ longestUrl && match url.host? with
    | some (.name name) => !name.any fun c => "\"\x60\x7b\x7d".toList.contains c
    | _ => true

/-- The address of a request, with its query in the pair `q`. -/
def requestUrl (text : String) (query : Option Value) : Except Fault Url := do
  let url ← (Url.read text).mapError .url
  if url.host?.isNone then .error (.otherScheme url)
  let bare := url.withoutCredentials
  let url := match query with
    | none => bare
    | some query => bare.addPair "q" (Json.render query)
  if url.scheme ∉ schemes then .error (.otherScheme url)
  else if !isSendable url then .error (.unsendable url)
  else pure url

namespace Command

def verb : Command → Verb
  | find _ _ _ | get _ _ _ _ => .get
  | create _ _ => .post
  | patch _ _ _ _ => .patch
  | update _ _ _ => .put
  | remove _ _ _ => .delete

def path : Command → List String
  | find resource _ _ | create resource _ | patch resource none _ _ | remove resource none _ => [resource]
  | get resource id _ _ | patch resource (some id) _ _ | update resource id _ | remove resource (some id) _ =>
    [resource, id]

def query : Command → Option String
  | find _ query _ | get _ _ query _ | patch _ _ _ query | remove _ _ query => query
  | create _ _ | update _ _ _ => none

def data : Command → Option String
  | create _ data | patch _ _ data _ | update _ _ data => some data
  | find _ _ _ | get _ _ _ _ | remove _ _ _ => none

def table : Command → Bool
  | find _ _ table | get _ _ _ table => table
  | create _ _ | patch _ _ _ _ | update _ _ _ | remove _ _ _ => false

def request (command : Command) (base : String) : Except Fault Request := do
  let query ← readQuery command.query
  let body ← command.data.mapM readText
  let url ← requestUrl ("/".intercalate (base :: command.path)) query
  pure { verb := command.verb, url, body }

def shown (command : Command) (value : Value) : String :=
  let listing := if command.table then Listing.ofBody? value else none
  match listing with
  | some listing => listing.text
  | none => Json.renderIndented value

def refusal (value : Value) : String :=
  (value.fields? >>= (·.lookup "message") >>= Value.string?).getD "request failed"

/-- The text that shows a reply to a request to some address. -/
def answer (command : Command) (url : Url) (reply : Reply) : Except Fault String :=
  match reply.fault? with
  | some fault => .error (.broken url fault)
  | none =>
    match Json.read? reply.content with
    | none => .error .replyNotJson
    | some value =>
      if Status.isSuccess reply.status then .ok (command.shown value)
      else .error (.refused reply.status (refusal value))

end Command

end RowStore.Client
