import RowStore.Toml.Document
import RowStore.Toml.Quoted
import RowStore.Toml.Scalar

/-!
# Documents from text

A document is read line by line, and a value by its tokens: the lists and inline tables that are still open are
kept in a list. A list may go over several lines with comments in between; an inline table may not.
-/

namespace RowStore.Toml

set_option autoImplicit false

def skipComment : List Char → List Char
  | '#' :: rest => rest.dropWhile isPlain
  | text => text

/-- The next line, if nothing but a comment is left of this one. -/
def nextLine? (text : List Char) : Option (List Char) :=
  lineEnd? (skipComment (skipGaps text))

/-- The same, where the text may also end. -/
def endLine? (text : List Char) : Option (List Char) :=
  match skipComment (skipGaps text) with
  | [] => some []
  | rest => lineEnd? rest

/-- The text after its spaces, tabs, comments and line ends. -/
def skipLines (text : List Char) : List Char :=
  match Text.step? text ((nextLine? text).map ((), ·)) with
  | some ⟨(_, rest), _⟩ => skipLines rest
  | none => skipGaps text
termination_by text.length

/-- The limit of nesting, which is not reached itself. -/
def nestingLimit : Nat := 80

def isBare (c : Char) : Bool :=
  c.isAlphanum || c = '_' || c = '-'

def name? (text : List Char) : Option (String × List Char) :=
  match Quoted.line? text with
  | some (name, rest) => some (String.ofList name, rest)
  | none =>
    let (name, rest) := text.span isBare
    if name = [] then none else some (String.ofList name, rest)

/-- A name with the spaces around it, and whether a point follows it, which is taken too. -/
def dottedName? (text : List Char) : Option ((String × Bool) × List Char) := do
  let (name, rest) ← name? (skipGaps text)
  match skipGaps rest with
  | '.' :: after => some ((name, true), after)
  | after => some ((name, false), after)

def key? (text : List Char) : Option (Key × List Char) :=
  match Text.step? text (dottedName? text) with
  | none => none
  | some ⟨((name, false), rest), _⟩ => some (⟨[], name⟩, rest)
  | some ⟨((name, true), rest), _⟩ =>
    (key? rest).map fun (key, after) => (⟨name :: key.path, key.last⟩, after)
termination_by text.length
decreasing_by dsimp only at *; omega

/-- Names of a number that is allowed. -/
def boundedKey? (text : List Char) : Option (Key × List Char) :=
  (key? text).filter fun (key, _) => key.names.length < nestingLimit

/-- What stands in front of a value: names and an equals sign. -/
def assignment? (text : List Char) : Option (Key × List Char) := do
  match ← boundedKey? text with
  | (key, '=' :: rest) => some (key, skipGaps rest)
  | _ => none

/-- A container that is still open: a list with its items in reverse, or an inline table that waits for the
value of a key. -/
inductive Frame where
  | list (done : List Value)
  | table (entries : Entries Node) (key : Key)

/-- What comes next: a value that is finished, or one inside a container. -/
inductive Stage where
  | finished (value : Value)
  | inside (frame : Frame)

def start? : List Char → Option (Stage × List Char)
  | '[' :: rest =>
    match skipLines rest with
    | ']' :: after => some (.finished (.array []), after)
    | after => some (.inside (.list []), after)
  | '\x7b' :: rest =>
    match skipGaps rest with
    | '\x7d' :: after => some (.finished (.object []), after)
    | after => (assignment? after).map fun (key, after) => (.inside (.table [] key), after)
  | text =>
    match Quoted.string? text with
    | some (s, after) => some (.finished (.string (String.ofList s)), after)
    | none => (Scalar.scalar? text).map fun (v, after) => (.finished v, after)

/-- Puts a value into the container that it stands in. -/
def continue? (frame : Frame) (value : Value) (text : List Char) : Option (Stage × List Char) :=
  match frame with
  | .list done =>
    match skipLines text with
    | ',' :: rest =>
      match skipLines rest with
      | ']' :: after => some (.finished (.array (value :: done).reverse), after)
      | after => some (.inside (.list (value :: done)), after)
    | ']' :: after => some (.finished (.array (value :: done).reverse), after)
    | _ => none
  | .table entries key => do
    let entries ← assign key value entries
    match skipGaps text with
    | ',' :: rest => (assignment? rest).map fun (key, after) => (.inside (.table entries key), after)
    | '\x7d' :: after => some (.finished (.object (Node.fieldsOf entries)), after)
    | _ => none

/-- Whether a text starts with a container. -/
def opens : List Char → Bool
  | '[' :: _ | '\x7b' :: _ => true
  | _ => false

mutual

/-- Reads a value inside the open containers and goes on from there. -/
def readValue? (frames : List Frame) (text : List Char) : Option (Value × List Char) :=
  if opens text ∧ nestingLimit ≤ frames.length + 1 then none
  else match Text.step? text (start? text) with
    | none => none
    | some ⟨(.finished value, rest), _⟩ => resume? frames value rest
    | some ⟨(.inside frame, rest), _⟩ => readValue? (frame :: frames) rest
termination_by text.length
decreasing_by all_goals dsimp only at *; omega

/-- Puts a finished value into the innermost open container and goes on; with none open it is the answer. -/
def resume? (frames : List Frame) (value : Value) (text : List Char) : Option (Value × List Char) :=
  match frames with
  | [] => some (value, text)
  | frame :: outer =>
    match Text.step? text (continue? frame value text) with
    | none => none
    | some ⟨(.finished value, rest), _⟩ => resume? outer value rest
    | some ⟨(.inside frame, rest), _⟩ => readValue? (frame :: outer) rest
termination_by text.length
decreasing_by all_goals dsimp only at *; omega

end

def entry? (text : List Char) : Option (Line × List Char) := do
  let (key, afterKey) ← assignment? text
  let (value, afterValue) ← readValue? [] afterKey
  let rest ← endLine? afterValue
  pure (.entry key value, rest)

def header? (closing : List Char) (line : Key → Line) (text : List Char) : Option (Line × List Char) := do
  let (key, after) ← boundedKey? text
  if closing.isPrefixOf after then
    let rest ← endLine? (after.drop closing.length)
    pure (line key, rest)
  else none

def line? (text : List Char) : Option (Line × List Char) :=
  match endLine? text with
  | some rest => some (.blank, rest)
  | none =>
    match skipGaps text with
    | '[' :: '[' :: rest => header? [']', ']'] .tables rest
    | '[' :: rest => header? [']'] .table rest
    | rest => entry? rest

def readLines? (document : Document) (text : List Char) : Option Document :=
  if text = [] then some document
  else match Text.step? text (line? text) with
    | none => none
    | some ⟨(line, rest), _⟩ =>
      match document.add line with
      | none => none
      | some document => readLines? document rest
termination_by text.length
decreasing_by dsimp only at *; omega

/-- The text after the mark that may open a file. -/
def skipMark : List Char → List Char
  | '\uFEFF' :: rest => rest
  | text => text

def read? (text : String) : Option Fields :=
  (readLines? .empty (skipMark text.toList)).map Document.fields

end RowStore.Toml
