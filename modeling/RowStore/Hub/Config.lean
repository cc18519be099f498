import RowStore.Result

/-!
# Configurations

Where a hub listens, and the resources that it serves. Every part but the name and the columns of a resource may
be left out.
-/

namespace RowStore.Hub

set_option autoImplicit false

/-- A kind of record, and the table that it is kept in. -/
structure ResourceConfig where
  name : String
  id : String
  columns : List String
  defaults : Fields
  policy : Option Policy
  events : List String
deriving DecidableEq, Repr

structure Config where
  bind : String
  resources : List ResourceConfig
deriving DecidableEq, Repr

namespace Config

def standardBind : String := "127.0.0.1:3030"

/-- What is served when nothing is said: things to do. -/
def standardResources : List ResourceConfig :=
  [⟨"todos", "id", ["text", "complete"], [], none, []⟩]

def standard : Config := ⟨standardBind, standardResources⟩

def readResource (style : PartStyle) (value : Value) : Option ResourceConfig := do
  let parts ← Parts.of? style 6 value
  pure {
    name := ← parts.required "name" 0 Value.string?
    id := ← parts.orElse "id" 1 Value.string? "id"
    columns := ← parts.required "columns" 2 (Value.listOf? Value.string?)
    defaults := ← parts.orElse "defaults" 3 Value.fields? []
    policy := ← parts.orElse "paginate" 4 (Value.nullable style (Policy.ofValue? style)) none
    events := ← parts.orElse "events" 5 (Value.listOf? Value.string?) [] }

def readServer (style : PartStyle) (value : Value) : Option String := do
  let parts ← Parts.of? style 1 value
  parts.orElse "bind" 0 Value.string? standardBind

def ofValue? (style : PartStyle) (value : Value) : Option Config := do
  let parts ← Parts.of? style 2 value
  pure {
    bind := ← parts.orElse "server" 0 (readServer style) standardBind
    resources := ← parts.orElse "resources" 1 (Value.listOf? (readResource style)) standardResources }

end Config

end RowStore.Hub
