import RowStore.Arguments
import RowStore.Hub
import RowStore.Hub.Address
import RowStore.Hub.LogFilter
import RowStore.Service.Describe
import RowStore.Text.Terminal
import RowStore.Toml.Reader

/-!
# Starting a hub

A hub is started from its configuration, which may be missing, and says what it does on the way: first the
configuration is read, then the resources are made in their order, and then the address is looked at. The
first fault ends the start.
-/

namespace RowStore.Hub

set_option autoImplicit false

/-- What the command line says: where the configuration is, and an address that wins over the one in it. -/
structure LaunchOptions where
  config : String
  bind : Option String
deriving DecidableEq, Repr

namespace LaunchOptions

def names : OptionNames := ⟨["config", "bind"], []⟩

def standardConfig : String := "rk-hub.toml"

/-- The options of a command line. The path of the configuration is not empty. -/
def ofWords? (words : List String) : Option LaunchOptions := do
  let arguments ← Arguments.read? names words
  if arguments.places ≠ [] then none
  let config := (arguments.value? "config").getD standardConfig
  if config = "" then none
  pure ⟨config, arguments.value? "bind"⟩

end LaunchOptions

def Config.ofText? (text : String) : Option Config :=
  Toml.read? text >>= fun fields => Config.ofValue? .toml (.object fields)

inductive LaunchEvent where
  | noConfig (path : String)
  | ready (name id : String) (policy : Option Policy)
  | mounted (name id : String) (paginated : Bool)
  | listening (address : Address)
deriving DecidableEq, Repr

namespace LaunchEvent

def level : LaunchEvent → Level
  | noConfig _ => .warn
  | ready _ _ _ => .debug
  | mounted _ _ _ | listening _ => .info

/-- The part of the program that says it. -/
def source : LaunchEvent → String
  | ready _ _ _ => "rk_service::service"
  | noConfig _ | mounted _ _ _ | listening _ => "rk_hub"

def message : LaunchEvent → String
  | noConfig path => "Config " ++ Text.literal path ++ " not found, serving defaults"
  | ready _ _ _ => "record service ready"
  | mounted name _ _ => "Mounted /" ++ name
  | listening address => "recordkit hub listening on http://" ++ address.text

def fields : LaunchEvent → List (String × String)
  | noConfig _ | listening _ => []
  | ready name id policy =>
    [("service", name), ("id", id), ("paginate", describeOption Policy.describe policy)]
  | mounted name id paginated =>
    [("resource", name), ("id", id), ("paginated", if paginated then "true" else "false")]

def fieldNames (event : LaunchEvent) : List String :=
  "message" :: event.fields.map Prod.fst

/-- The words may give a terminal no commands; the values are written as they are. -/
def line (event : LaunchEvent) : String :=
  event.level.name ++ " " ++ event.source ++ ": " ++ Text.terminal event.message
    ++ String.join (event.fields.map fun (name, value) => " " ++ name ++ "=" ++ value)

def shownBy (filter : LogFilter) (event : LaunchEvent) : Bool :=
  filter.shows event.source event.fieldNames event.level

end LaunchEvent

inductive SystemFault where
  | isFolder
  | addressInUse
  | addressNotAvailable
deriving DecidableEq, Repr

namespace SystemFault

def code : SystemFault → Nat
  | isFolder => 21
  | addressInUse => 98
  | addressNotAvailable => 99

def kind : SystemFault → String
  | isFolder => "IsADirectory"
  | addressInUse => "AddrInUse"
  | addressNotAvailable => "AddrNotAvailable"

def reason : SystemFault → String
  | isFolder => "Is a directory"
  | addressInUse => "Address already in use"
  | addressNotAvailable => "Cannot assign requested address"

def describe (fault : SystemFault) : String :=
  describeStruct "Os" [("code", toString fault.code), ("kind", fault.kind),
    ("message", Text.literal fault.reason)] true

end SystemFault

inductive LaunchFailure where
  | malformedConfig
  | malformedAddress
  | refused (fault : SystemFault)
deriving DecidableEq, Repr

def LaunchFailure.message : LaunchFailure → String
  | malformedConfig => "Error: TomlError"
  | malformedAddress => "Error: AddrParseError(Socket)"
  | refused fault => "Error: " ++ fault.describe

/-- What is found where the configuration should be. -/
inductive ConfigFile where
  | missing
  | folder
  | text (content : String)
deriving DecidableEq, Repr

/-- How a start went: what was said, and the hub with its address or the fault. -/
structure Launch where
  events : List LaunchEvent
  result : Except LaunchFailure (Address × State)

namespace Launch

/-- A resource says that its service is made, and where it is found. -/
def mount (resource : ResourceConfig) : List LaunchEvent :=
  let service := resource.service
  [.ready service.name service.id resource.policy,
    .mounted resource.name service.id service.policy.enabled]

/-- Starts a hub that is configured at the address that wins; `refusal` says which ones cannot be had. -/
def serve (refusal : Address → Option SystemFault) (bind : Option String) (config : Config) : Launch :=
  let mounts := config.resources.flatMap mount
  match Address.ofText? (bind.getD config.bind) with
  | none => ⟨mounts, .error .malformedAddress⟩
  | some address =>
    ⟨mounts ++ [.listening address],
      match refusal address with
      | some fault => .error (.refused fault)
      | none => .ok (address, start config)⟩

/-- Starts a hub with what is found where its configuration should be. -/
def run (refusal : Address → Option SystemFault) (options : LaunchOptions) (file : ConfigFile) : Launch :=
  match file with
  | .missing =>
    let launch := serve refusal options.bind .standard
    { launch with events := .noConfig options.config :: launch.events }
  | .folder => ⟨[], .error (.refused .isFolder)⟩
  | .text content =>
    match Config.ofText? content with
    | none => ⟨[], .error .malformedConfig⟩
    | some config => serve refusal options.bind config

/-- What is shown when nothing else is asked for. -/
def standardFilter : String := "rk_hub=info,tower_http=info"

/-- The lines that a filter shows. A name with a line end in it is written over several of them. -/
def log (launch : Launch) (filter : LogFilter) : List String :=
  (launch.events.filter (LaunchEvent.shownBy filter)).flatMap fun event =>
    (Text.splitOn '\n' event.line.toList).map String.ofList

end Launch

end RowStore.Hub
