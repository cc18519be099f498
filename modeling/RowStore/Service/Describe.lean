import RowStore.Service
import RowStore.Text.Literal

/-!
# Descriptions of services

Options and services as one line of text for whoever looks into a running program. A storage is described by its
presence only, and that something is left out is said at the end.
-/

namespace RowStore

set_option autoImplicit false

/-- A structure with some of its fields. -/
def describeStruct (name : String) (fields : List (String × String)) (complete : Bool) : String :=
  let parts := fields.map fun (field, text) => field ++ ": " ++ text
  let parts := if complete then parts else parts ++ [".."]
  name ++ " \x7b " ++ ", ".intercalate parts ++ " \x7d"

def describeOption {α : Type} (describe : α → String) : Option α → String
  | some a => "Some(" ++ describe a ++ ")"
  | none => "None"

def describeList {α : Type} (describe : α → String) (items : List α) : String :=
  "[" ++ ", ".intercalate (items.map describe) ++ "]"

def Policy.describe (policy : Policy) : String :=
  describeStruct "Paginate" [
    ("default", describeOption toString policy.defaultSize),
    ("max", describeOption toString policy.maxSize)] true

def ServiceOptions.describe {σ : Type} (options : ServiceOptions σ) : String :=
  describeStruct "ServiceOptions" [
    ("model", if options.storage.isSome then "true" else "false"),
    ("id", describeOption Text.literal options.id),
    ("paginate", describeOption Policy.describe options.policy),
    ("events", describeList Text.literal options.events),
    ("name", describeOption Text.literal options.name)] false

def Service.describe {σ : Type} (service : Service σ) : String :=
  describeStruct "RecordService" [
    ("name", Text.literal service.name),
    ("id", Text.literal service.id),
    ("paginate", service.policy.describe),
    ("events", describeList Text.literal service.events)] false

end RowStore
