import RowStore.Value

/-!
# Documents of tables

A document is a table that is filled line by line. A header opens a table, or adds one to a list of tables, and
what follows is written into it. Tables that are only passed on the way to another may be opened later, once. A
table that dotted names made is filled by dotted names alone, and nothing is written twice.
-/

namespace RowStore.Toml

set_option autoImplicit false

/-- A name with the names of the tables in front of it. -/
structure Key where
  path : List String
  last : String
deriving DecidableEq, Repr

def Key.names (key : Key) : List String := key.path ++ [key.last]

/-- How a table came to be: by a header of its own, on the way to another header, or by dotted names. -/
inductive Origin where
  | header
  | passing
  | dotted
deriving DecidableEq, Repr

/-- What a name stands for: a finished value, a table, or a list of tables of which only the last one may
still grow. -/
inductive Node where
  | value (v : Value)
  | table (origin : Origin) (entries : List (String × Node))
  | tables (done : List (List (String × Node))) (last : List (String × Node))

namespace Node

mutual

def toValue : Node → Value
  | value v => v
  | table _ entries => .object (fieldsOf entries)
  | tables done last => .array (objectsOf done ++ [.object (fieldsOf last)])

def fieldsOf : List (String × Node) → Fields
  | [] => []
  | (name, node) :: rest => (name, node.toValue) :: fieldsOf rest

def objectsOf : List (List (String × Node)) → List Value
  | [] => []
  | entries :: rest => .object (fieldsOf entries) :: objectsOf rest

end

/-- The entries that can still grow, and how they are put back. -/
def open? : Node → Option (Entries Node × (Entries Node → Node))
  | value _ => none
  | table origin entries => some (entries, table origin)
  | tables done last => some (last, tables done)

/-- Whether dotted names may go through a node, which is the last one before the name if nothing remains. -/
def admits (remaining : List String) : Node → Bool
  | table .dotted _ => true
  | table .passing _ | tables _ _ => !remaining.isEmpty
  | table .header _ | value _ => false

end Node

/-- Changes the entries at the end of a path, through nodes that are allowed; tables that are missing on the
way are made. -/
def within (allowed : List String → Node → Bool) (origin : Origin)
    (edit : Entries Node → Option (Entries Node)) : List String → Entries Node → Option (Entries Node)
  | [], entries => edit entries
  | name :: path, entries => do
    let node := (entries.lookup name).getD (.table origin [])
    if allowed path node then
      let (inner, close) ← node.open?
      let inner ← within allowed origin edit path inner
      some (Entries.insert name (close inner) entries)
    else none

/-- Writes a value under a name that is new. -/
def assign (key : Key) (value : Value) : Entries Node → Option (Entries Node) :=
  within Node.admits .dotted
    (fun entries =>
      if (entries.lookup key.last).isSome then none else some (entries ++ [(key.last, .value value)]))
    key.path

def underHeader (key : Key) (edit : Option Node → Option Node) (entries : Entries Node) :
    Option (Entries Node) :=
  within (fun _ _ => true) .passing
    (fun inner => (edit (inner.lookup key.last)).map fun node => Entries.insert key.last node inner)
    key.path entries

/-- Opens a table that is new, or that was only passed so far. -/
def openTable : Option Node → Option Node
  | none => some (.table .header [])
  | some (.table .passing entries) => some (.table .header entries)
  | some _ => none

def addTable : Option Node → Option Node
  | none => some (.tables [] [])
  | some (.tables done last) => some (.tables (done ++ [last]) [])
  | some _ => none

/-- The tables so far, and the names of the header above the next line. -/
structure Document where
  entries : Entries Node
  header : List String

inductive Line where
  | blank
  | table (key : Key)
  | tables (key : Key)
  | entry (key : Key) (value : Value)

namespace Document

def empty : Document := ⟨[], []⟩

/-- Takes in one more line, if it fits. -/
def add (document : Document) : Line → Option Document
  | .blank => some document
  | .table key => (underHeader key openTable document.entries).map (⟨·, key.names⟩)
  | .tables key => (underHeader key addTable document.entries).map (⟨·, key.names⟩)
  | .entry key value =>
    (within (fun _ _ => true) .passing (assign key value) document.header document.entries).map
      (⟨·, document.header⟩)

def fields (document : Document) : Fields :=
  Node.fieldsOf document.entries

end Document

end RowStore.Toml
