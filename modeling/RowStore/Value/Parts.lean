import RowStore.Value

/-!
# Reading structures

A structure is written as an object, by the names of its parts, or as a list, by their places. Unknown names
are passed over, and a list may be shorter than the structure where its last parts can be left out. Whether it
may be longer, and whether null stands for a part that is left out, is a matter of the format.
-/

namespace RowStore

set_option autoImplicit false

/-- What a format says about structures: whether null stands for a part that is left out, and whether a list
may have items after the last part. -/
structure PartStyle where
  nullable : Bool
  surplus : Bool
deriving DecidableEq, Repr

namespace PartStyle

def json : PartStyle := ⟨true, false⟩

/-- The style of TOML: it has no null, so that null is a number that is not finite. -/
def toml : PartStyle := ⟨false, true⟩

end PartStyle

inductive Parts where
  | named (fields : Fields)
  | placed (items : List Value)

namespace Parts

/-- The parts of a structure of at most `width` of them. -/
def of? (style : PartStyle) (width : Nat) : Value → Option Parts
  | .object fields => some (named fields)
  | .array items => if items.length ≤ width ∨ style.surplus then some (placed items) else none
  | _ => none

/-- The part with a name and a place, if it is written. -/
def part? (parts : Parts) (name : String) (place : Nat) : Option Value :=
  match parts with
  | named fields => fields.lookup name
  | placed items => items[place]?

variable {α : Type}

def required (parts : Parts) (name : String) (place : Nat) (read : Value → Option α) : Option α :=
  parts.part? name place >>= read

/-- A part that has a value of its own when it is left out. -/
def orElse (parts : Parts) (name : String) (place : Nat) (read : Value → Option α) (standard : α) : Option α :=
  match parts.part? name place with
  | some value => read value
  | none => some standard

/-- A part that may be left out of an object, but not of a list. -/
def optional (parts : Parts) (name : String) (place : Nat) (read : Value → Option α) : Option (Option α) :=
  match parts, parts.part? name place with
  | _, some .null => some none
  | _, some value => (read value).map some
  | named _, none => some none
  | placed _, none => none

end Parts

namespace Value

variable {α : Type}

/-- Null, where it stands for nothing, or a value that can be read. -/
def nullable (style : PartStyle) (read : Value → Option α) (value : Value) : Option (Option α) :=
  if value.isNull ∧ style.nullable then some none else (read value).map some

/-- A list of values that can be read. -/
def listOf? (read : Value → Option α) (value : Value) : Option (List α) :=
  value.items? >>= List.mapM read

end Value

end RowStore
