import RowStore.Clause.Holds
import RowStore.Plan

/-!
# Tables

A table holds rows of fixed columns, one of which is the key, in the order of their insertion. Keys are given or
taken from a sequence that stays ahead of the integer keys it has seen. A write that names an unknown column, a
key that is taken, or a key that is missing, fails and leaves the table as it is.
-/

namespace RowStore

set_option autoImplicit false

inductive TableError where
  | noColumn (table column : String)
  | keyTaken (table key : String)
  | noRow (table key : String) (id : Value)
deriving DecidableEq, Repr

def TableError.message : TableError → String
  | noColumn table column => "table " ++ table ++ " has no column named " ++ column
  | keyTaken table key => "UNIQUE constraint failed: " ++ table ++ "." ++ key
  | noRow table key id => "no row in " ++ table ++ " with " ++ key ++ " = " ++ Json.render id

structure Table where
  name : String
  /-- The column of the key. -/
  key : String
  /-- The key first, and no column twice. -/
  columns : List String
  /-- What an insert that leaves a column out puts there. -/
  defaults : Fields
  rows : List Record
  /-- The next key of the sequence. -/
  nextId : Int
deriving DecidableEq, Repr

namespace Table

def firstId : Int := 1

/-- The integer after `n`; the sequence of 64-bit integers is a circle. -/
def successor (n : Int) : Int := (n + 1).bmod Numeral.wordBound

def create (name key : String) (columns : List String) : Table :=
  ⟨name, key, Plan.keyFirst key columns, [], [], firstId⟩

def withDefault (table : Table) (column : String) (value : Value) : Table :=
  { table with defaults := Entries.insert column value table.defaults }

/-- The same table without its rows, its sequence back at the start. -/
def clear (table : Table) : Table :=
  { table with rows := [], nextId := firstId }

/-- The first name in a record that is no column. -/
def unknownColumn? (table : Table) (record : Record) : Option String :=
  (Entries.names record).find? fun column => !table.columns.contains column

/-- Whether a row has a key that equals `id`. -/
def hasKey (table : Table) (id : Value) (row : Record) : Bool :=
  match Record.key? row table.key with
  | some stored => stored.same id
  | none => false

def initial (table : Table) (id : Value) (attributes : Record) (column : String) : Value :=
  if column = table.key then id
  else ((attributes.lookup column) <|> (table.defaults.lookup column)).getD .null

/-- The new row of an insert: all columns, in their order. -/
def newRow (table : Table) (id : Value) (attributes : Record) : Record :=
  table.columns.map fun column => (column, table.initial id attributes column)

/-- The sequence after a row with a given key. -/
def advance (table : Table) (id : Value) : Int :=
  match id with
  | .number n => match n.int64? with
    | some n => max table.nextId (successor n)
    | none => table.nextId
  | _ => table.nextId

/-- Puts a row at the end; the answer is its key. -/
def insert (table : Table) (attributes : Record) : Except TableError (Value × Table) :=
  match table.unknownColumn? attributes with
  | some column => .error (.noColumn table.name column)
  | none =>
    match Record.key? attributes table.key with
    | some id =>
      if table.rows.any (table.hasKey id) then .error (.keyTaken table.name table.key)
      else .ok (id, { table with
        rows := table.rows ++ [table.newRow id attributes]
        nextId := table.advance id })
    | none =>
      let id := Value.ofInt table.nextId
      .ok (id, { table with
        rows := table.rows ++ [table.newRow id attributes]
        nextId := successor table.nextId })

/-- Writes changes into a row, all but the key. -/
def write (table : Table) (changes : Record) (row : Record) : Record :=
  changes.foldl (fun row change =>
    if change.1 = table.key then row else Entries.insert change.1 change.2 row) row

/-- Changes the first item that passes a test; the answer is the changed item and the whole list. -/
def changeFirst {α : Type} (test : α → Bool) (change : α → α) : List α → Option (α × List α)
  | [] => none
  | item :: rest =>
    if test item then some (change item, change item :: rest)
    else (changeFirst test change rest).map fun (changed, rest) => (changed, item :: rest)

/-- Changes the row with a key; the answer is the row as it is now. -/
def update (table : Table) (id : Value) (changes : Record) : Except TableError (Record × Table) :=
  match table.unknownColumn? changes with
  | some column => .error (.noColumn table.name column)
  | none =>
    match changeFirst (table.hasKey id) (table.write changes) table.rows with
    | some (row, rows) => .ok (row, { table with rows })
    | none => .error (.noRow table.name table.key id)

/-- Takes the rows with a key out. -/
def delete (table : Table) (id : Value) : Except TableError Table :=
  if table.rows.any (table.hasKey id) then
    .ok { table with rows := table.rows.filter fun row => !table.hasKey id row }
  else .error (.noRow table.name table.key id)

/-- The order of two rows by a list of sort keys; the first that tells them apart decides. -/
def orderRows : List SortKey → Record → Record → Ordering
  | [], _, _ => .eq
  | key :: rest, a, b =>
    let byKey := match key.direction with
      | .ascending => (Record.cell a key.field).order (Record.cell b key.field)
      | .descending => (Record.cell b key.field).order (Record.cell a key.field)
    byKey.then (orderRows rest a b)

/-- Rows in the order of the sort keys; rows that these do not tell apart stay as they were. -/
def sortRows (sort : List SortKey) (rows : List Record) : List Record :=
  if sort.isEmpty then rows else rows.mergeSort fun a b => orderRows sort a b != .gt

/-- The selected columns that a row has, in the order of the selection; one that is selected twice is shown once. -/
def project (select : Option (List String)) (row : Record) : Record :=
  match select with
  | some columns => Entries.ofList (columns.filterMap fun column => (row.lookup column).map (column, ·))
  | none => row

def slice {α : Type} (skip limit : Option Nat) (items : List α) : List α :=
  let rest := items.drop (skip.getD 0)
  match limit with
  | some limit => rest.take limit
  | none => rest

def matching (table : Table) (plan : Plan) : List Record :=
  table.rows.filter fun row => plan.clause.holds row

/-- The number of rows of a plan without its bounds. -/
def count (table : Table) (plan : Plan) : Nat :=
  (table.matching plan).length

/-- The rows of a plan: those that match, sorted, cut to the page, with the selected columns. -/
def fetch (table : Table) (plan : Plan) : List Record :=
  (slice plan.skip plan.limit (sortRows plan.sort (table.matching plan))).map (project plan.select)

end Table

end RowStore
