import RowStore.Arguments

/-!
# Commands of the client

A command names a resource and what to do with it. Its first word is the command itself; queries and data are
kept as they are written.
-/

namespace RowStore.Client

set_option autoImplicit false

inductive Command where
  | find (resource : String) (query : Option String) (table : Bool)
  | get (resource id : String) (query : Option String) (table : Bool)
  | create (resource data : String)
  | patch (resource : String) (id : Option String) (data : String) (query : Option String)
  | update (resource id data : String)
  | remove (resource : String) (id query : Option String)
deriving DecidableEq, Repr

namespace Command

def resourceAndKey? : List String → Option (String × Option String)
  | [resource] => some (resource, none)
  | [resource, id] => some (resource, some id)
  | _ => none

def pair? : List String → Option (String × String)
  | [resource, id] => some (resource, id)
  | _ => none

def ofWords? : List String → Option Command
  | "find" :: words => do
    let arguments ← Arguments.read? ⟨["query"], ["table"]⟩ words
    match arguments.places with
    | [resource] => some (find resource (arguments.value? "query") (arguments.has "table"))
    | _ => none
  | "get" :: words => do
    let arguments ← Arguments.read? ⟨["query"], ["table"]⟩ words
    let (resource, id) ← pair? arguments.places
    some (get resource id (arguments.value? "query") (arguments.has "table"))
  | "create" :: words => do
    let arguments ← Arguments.read? ⟨[], []⟩ words
    let (resource, data) ← pair? arguments.places
    some (create resource data)
  | "patch" :: words => do
    let arguments ← Arguments.read? ⟨["data", "query"], []⟩ words
    let (resource, id) ← resourceAndKey? arguments.places
    some (patch resource id (← arguments.value? "data") (arguments.value? "query"))
  | "update" :: words => do
    let arguments ← Arguments.read? ⟨["data"], []⟩ words
    let (resource, id) ← pair? arguments.places
    some (update resource id (← arguments.value? "data"))
  | "remove" :: words => do
    let arguments ← Arguments.read? ⟨["query"], []⟩ words
    let (resource, id) ← resourceAndKey? arguments.places
    some (remove resource id (arguments.value? "query"))
  | _ => none

end Command

end RowStore.Client
