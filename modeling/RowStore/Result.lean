import RowStore.Plan
import RowStore.Value.Parts

/-!
# Shapes of requests and results

Data come as one item or as several; a find gives a bare list, or a page with the number of all rows that
match. The written forms carry no mark of their kind, so reading tries the kinds in a fixed order.
-/

namespace RowStore

set_option autoImplicit false

inductive OneOrMany (α : Type) where
  | one (item : α)
  | many (items : List α)
deriving DecidableEq, Repr

namespace OneOrMany

variable {α : Type}

def toList : OneOrMany α → List α
  | one item => [item]
  | many items => items

def size (data : OneOrMany α) : Nat := data.toList.length

def isEmpty (data : OneOrMany α) : Bool := data.size == 0

def toValue : OneOrMany Record → Value
  | one record => .object record
  | many records => .array (records.map .object)

/-- An object is one record, a list of objects several. -/
def ofValue? (value : Value) : Option (OneOrMany Record) :=
  (value.fields?.map one) <|> ((value.listOf? Value.fields?).map many)

end OneOrMany

/-- Some rows of a result, with what there is to know about all of them. -/
structure Page where
  total : Nat
  limit : Nat
  skip : Nat
  data : List Record
deriving DecidableEq, Repr

namespace Page

def toValue (page : Page) : Value :=
  .object [("total", .ofNat page.total), ("limit", .ofNat page.limit), ("skip", .ofNat page.skip),
    ("data", .array (page.data.map .object))]

def ofValue? (value : Value) : Option Page := do
  let parts ← Parts.of? .json 4 value
  pure {
    total := ← parts.required "total" 0 Value.count?
    limit := ← parts.required "limit" 1 Value.count?
    skip := ← parts.required "skip" 2 Value.count?
    data := ← parts.required "data" 3 (Value.listOf? Value.fields?) }

end Page

inductive Selection where
  | page (page : Page)
  | rows (records : List Record)
deriving DecidableEq, Repr

namespace Selection

def data : Selection → List Record
  | page p => p.data
  | rows records => records

def toValue : Selection → Value
  | page p => p.toValue
  | rows records => .array (records.map .object)

/-- A page if it can be read as one, else a list of records. -/
def ofValue? (value : Value) : Option Selection :=
  ((Page.ofValue? value).map page) <|> ((value.listOf? Value.fields?).map rows)

end Selection

/-- The rows that a change applies to. -/
inductive Target where
  | single (id : Value)
  | matching (query : Fields)
deriving DecidableEq, Repr

namespace Target

def everything : Target := matching []

def isBulk : Target → Bool
  | single _ => false
  | matching _ => true

end Target

def Policy.ofValue? (style : PartStyle) (value : Value) : Option Policy := do
  let parts ← Parts.of? style 2 value
  pure {
    defaultSize := ← parts.orElse "default" 0 (Value.nullable style Value.count?) none
    maxSize := ← parts.orElse "max" 1 (Value.nullable style Value.count?) none }

def Policy.toValue (policy : Policy) : Value :=
  .object [("default", .ofOption .ofNat policy.defaultSize), ("max", .ofOption .ofNat policy.maxSize)]

/-- A direction is written by its name, alone or as the only field of an object that holds null. -/
def Direction.ofValue? : Value → Option Direction
  | .string "ascending" | .object [("ascending", .null)] => some .ascending
  | .string "descending" | .object [("descending", .null)] => some .descending
  | _ => none

def SortKey.ofValue? (value : Value) : Option SortKey := do
  let parts ← Parts.of? .json 2 value
  pure {
    field := ← parts.required "field" 0 Value.string?
    direction := ← parts.required "direction" 1 Direction.ofValue? }

def Controls.ofValue? (value : Value) : Option Controls := do
  let parts ← Parts.of? .json 4 value
  pure {
    select := ← parts.optional "select" 0 (Value.listOf? Value.string?)
    sort := ← parts.required "sort" 1 (Value.listOf? SortKey.ofValue?)
    limit := ← parts.optional "limit" 2 Value.count?
    skip := ← parts.optional "skip" 3 Value.count? }

/-- What a caller gives along with an operation: a query, and a policy that takes the place of the standing
one. -/
structure Params where
  query : Fields
  policy : Option Policy
deriving DecidableEq, Repr, Inhabited

namespace Params

def none : Params := ⟨[], .none⟩

def ofQuery (query : Fields) : Params := ⟨query, .none⟩

/-- The query of an object; anything else asks nothing. -/
def ofObject (value : Value) : Params := ofQuery (value.fields?.getD [])

def ofValue? (value : Value) : Option Params := do
  let parts ← Parts.of? .json 2 value
  pure {
    query := ← parts.orElse "query" 0 Value.fields? []
    policy := ← parts.orElse "paginate" 1 (Value.nullable .json (Policy.ofValue? .json)) .none }

end Params

end RowStore
