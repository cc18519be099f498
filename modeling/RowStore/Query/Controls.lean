import RowStore.Json.Writer
import RowStore.Query.Error
import RowStore.Query.Policy
import RowStore.Text.Blank

/-!
# Controls

The entries of a query object that shape the result and do not filter rows: which fields to show, how to sort,
how many rows to give and how many to pass over. Each is read on its own.
-/

namespace RowStore

set_option autoImplicit false

inductive Direction where
  | ascending | descending
deriving DecidableEq, Repr, Inhabited

namespace Direction

def name : Direction → String
  | ascending => "ascending"
  | descending => "descending"

def symbol : Direction → String
  | ascending => "ASC"
  | descending => "DESC"

end Direction

structure SortKey where
  field : String
  direction : Direction
deriving DecidableEq, Repr, Inhabited

structure Controls where
  select : Option (List String)
  sort : List SortKey
  limit : Option Nat
  skip : Option Nat
deriving DecidableEq, Repr, Inhabited

namespace Controls

def none : Controls := ⟨.none, [], .none, .none⟩

def selectKey : String := "$select"
def sortKey : String := "$sort"
def limitKey : String := "$limit"
def skipKey : String := "$skip"

/-- Accepted and passed over: rows have no relations here. -/
def populateKey : String := "$populate"

def keys : List String := [selectKey, sortKey, limitKey, skipKey, populateKey]

def integer? : Value → Option Int
  | .number n => some n.toInt64
  | .string s => Numeral.int64? (Text.trim s.toList)
  | _ => .none

/-- A count without its sign; null asks for none. -/
def readCount (control : String) (value : Value) : Except QueryError (Option Nat) :=
  if value.isNull then .ok .none
  else match integer? value with
    | some n => .ok (some n.natAbs)
    | .none => .error (.invalidNumber control)

def readName (value : Value) : Except QueryError String :=
  match value with
  | .string s => .ok s
  | _ => .error .invalidSelect

/-- A field name or a list of them; null selects everything. -/
def readSelect : Value → Except QueryError (Option (List String))
  | .null => .ok .none
  | .string s => .ok (some [s])
  | .array items => (items.mapM readName).map some
  | _ => .error .invalidSelect

/-- One is ascending, every other integer descending. -/
def readSortKey (entry : String × Value) : Except QueryError SortKey :=
  match integer? entry.2 with
  | some n => .ok ⟨entry.1, if n = 1 then .ascending else .descending⟩
  | .none => .error (.invalidSort entry.1)

def readSort : Value → Except QueryError (List SortKey)
  | .null => .ok []
  | .object fields => fields.mapM readSortKey
  | _ => .error (.invalidSort sortKey)

/-- Takes one entry of a query object in; an entry that is no control changes nothing. -/
def read (controls : Controls) (entry : String × Value) : Except QueryError Controls :=
  if entry.1 = selectKey then do pure { controls with select := ← readSelect entry.2 }
  else if entry.1 = sortKey then do pure { controls with sort := ← readSort entry.2 }
  else if entry.1 = limitKey then do pure { controls with limit := ← readCount limitKey entry.2 }
  else if entry.1 = skipKey then do pure { controls with skip := ← readCount skipKey entry.2 }
  else pure controls

end Controls

end RowStore
