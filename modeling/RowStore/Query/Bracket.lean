import RowStore.Json.Reader
import RowStore.Json.Writer

/-!
# Queries as pairs

A query object can be written as pairs of texts. The name of a pair is a path into the object: a name, then
further names in brackets; empty brackets at the end append to a list. Values are read as integers, numbers,
booleans or null where they can be, else as texts. One name is kept for a whole query object in JSON, whose
fields go on top of all others.
-/

namespace RowStore.Bracket

set_option autoImplicit false

inductive Fault where
  | malformedKey (key : String)
  | listMixed (key : String)
  | objectMixed (key : String)
  | listInside (key : String)
  | notAnObject
  | notJson
deriving DecidableEq, Repr

def Fault.message : Fault → String
  | malformedKey key => "malformed query key '" ++ key ++ "'"
  | listMixed key => "'" ++ key ++ "' mixes list and scalar values"
  | objectMixed key => "'" ++ key ++ "' mixes object and scalar values"
  | listInside key => "'" ++ key ++ "[]' must be the last segment"
  | notAnObject => "'q' must be a JSON object"
  | notJson => "'q' is not valid JSON"

/-- The name of the pair that holds a query object in JSON. -/
def jsonName : String := "q"

/-- Puts a character in front of the first piece. -/
def prependChar (c : Char) : List (List Char) → List (List Char)
  | piece :: more => (c :: piece) :: more
  | [] => [[c]]

mutual

/-- The names in brackets that a text consists of. -/
def segments? : List Char → Option (List (List Char))
  | [] => some []
  | c :: rest => if c = '[' then inside? rest else none

/-- The rest of a name up to its closing bracket, and the names after it. -/
def inside? : List Char → Option (List (List Char))
  | [] => none
  | c :: rest =>
    if c = ']' then (segments? rest).map ([] :: ·)
    else (inside? rest).map (prependChar c)

end

/-- The path of a key. Without brackets the key is its only name; with them, the first name is not empty. -/
def split? (key : List Char) : Option (List (List Char)) :=
  let head := key.takeWhile (· != '[')
  let rest := key.dropWhile (· != '[')
  if rest = [] then some [key]
  else if head = [] then none
  else (segments? rest).map (head :: ·)

def join : List (List Char) → List Char
  | [] => []
  | head :: names => head ++ names.flatMap fun name => '[' :: name ++ [']']

/-- The path of a key, or the fault in it. -/
def path (key : String) : Except Fault (List String) :=
  match split? key.toList with
  | some names => .ok (names.map String.ofList)
  | none => .error (.malformedKey key)

/-- Puts a value at the end of a path. Names on the way are objects, or become one; the end of the path takes
the place of whatever is there. -/
def insert (value : Value) : List String → Fields → Except Fault Fields
  | [], fields => .ok fields
  | [key], fields => .ok (Entries.insert key value fields)
  | key :: next :: rest, fields =>
    if next = "" then
      if rest = [] then
        match (fields.lookup key).getD (.array []) with
        | .array items => .ok (Entries.insert key (.array (items ++ [value])) fields)
        | _ => .error (.listMixed key)
      else .error (.listInside key)
    else
      match (fields.lookup key).getD (.object []) with
      | .object inner => (insert value (next :: rest) inner).map fun inner =>
          Entries.insert key (.object inner) fields
      | _ => .error (.objectMixed key)

def scalar (raw : String) : Value :=
  match Numeral.int64? raw.toList with
  | some n => .ofInt n
  | none => match Binary64.ofText? raw.toList with
    | some x => .number (.real x)
    | none =>
      if raw = "true" then .bool true
      else if raw = "false" then .bool false
      else if raw = "null" then .null
      else .string raw

/-- The key that a text in a path of an address stands for: an integer where it can be. -/
def key (raw : String) : Value :=
  match Numeral.int64? raw.toList with
  | some n => .ofInt n
  | none => .string raw

/-- The query object in the value of a pair. -/
def structured (raw : String) : Except Fault Fields :=
  match Json.read? raw with
  | some (.object fields) => .ok fields
  | some _ => .error .notAnObject
  | none => .error .notJson

/-- What is decoded so far: the fields of plain pairs, and the last query object. -/
structure Draft where
  fields : Fields
  structured : Fields

def step (acc : Draft) (pair : String × String) : Except Fault Draft :=
  if pair.1 = jsonName then do
    pure { acc with structured := ← structured pair.2 }
  else do
    pure { acc with fields := ← insert (scalar pair.2) (← path pair.1) acc.fields }

def decode (pairs : List (String × String)) : Except Fault Fields := do
  let acc ← pairs.foldlM step ⟨[], []⟩
  pure (Entries.insertAll acc.fields acc.structured)

end RowStore.Bracket
