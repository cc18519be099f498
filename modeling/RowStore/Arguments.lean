import RowStore.Entries

/-!
# Command-line arguments

A word that starts with two dashes is an option, alone or with its value after an equals sign; a value may also
be the next word, unless that starts with a dash itself. Every option stands at most once. All other words are
places, and after a bare pair of dashes every word is one.
-/

namespace RowStore

set_option autoImplicit false

/-- The options of a command: those with a value, and those without. -/
structure OptionNames where
  valued : List String
  plain : List String

structure Arguments where
  values : Entries String
  flags : List String
  places : List String
deriving DecidableEq, Repr

namespace Arguments

inductive Word where
  | place
  | divider
  | option (name : String) (value : Option String)
  | unknown
deriving DecidableEq, Repr

def classify (word : String) : Word :=
  match word.toList with
  | ['-', '-'] => .divider
  | '-' :: '-' :: body =>
    .option (String.ofList (body.takeWhile (· != '=')))
      (match body.dropWhile (· != '=') with
        | _ :: value => some (String.ofList value)
        | [] => none)
  | ['-'] => .place
  | '-' :: _ => .unknown
  | _ => .place

def setValue? (arguments : Arguments) (name value : String) : Option Arguments :=
  if (arguments.values.lookup name).isSome then none
  else some { arguments with values := arguments.values ++ [(name, value)] }

def setFlag? (arguments : Arguments) (name : String) : Option Arguments :=
  if name ∈ arguments.flags then none else some { arguments with flags := arguments.flags ++ [name] }

def addPlaces (arguments : Arguments) (words : List String) : Arguments :=
  { arguments with places := arguments.places ++ words }

/-- Reads words after those that are already read. -/
def readFrom? (names : OptionNames) (arguments : Arguments) : List String → Option Arguments
  | [] => some arguments
  | word :: rest =>
    match classify word with
    | .place => readFrom? names (arguments.addPlaces [word]) rest
    | .divider => some (arguments.addPlaces rest)
    | .unknown => none
    | .option name (some value) => do
      if name ∉ names.valued then none
      let arguments ← arguments.setValue? name value
      readFrom? names arguments rest
    | .option name none =>
      if name ∈ names.plain then do
        let arguments ← arguments.setFlag? name
        readFrom? names arguments rest
      else if name ∈ names.valued then
        match rest with
        | value :: rest => do
          if classify value ≠ .place then none
          let arguments ← arguments.setValue? name value
          readFrom? names arguments rest
        | [] => none
      else none

def read? (names : OptionNames) (words : List String) : Option Arguments :=
  readFrom? names ⟨[], [], []⟩ words

def value? (arguments : Arguments) (name : String) : Option String :=
  arguments.values.lookup name

def has (arguments : Arguments) (name : String) : Bool :=
  arguments.flags.contains name

end Arguments

end RowStore
