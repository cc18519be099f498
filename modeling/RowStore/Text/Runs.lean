import RowStore.Text.Hex
import RowStore.Text.Split

/-!
# Tables of characters

Tables of Unicode are kept as lines of words. A word names a run of code points in hexadecimal digits, `41-5A`
or a single one, of which `/2` takes every second; after a colon it may say what they stand for, as code points
with points between them.
-/

namespace RowStore.Text

set_option autoImplicit false

/-- The code points from the first to the last in steps of one length, and what they stand for. -/
structure Run where
  first : Nat
  last : Nat
  stride : Nat
  values : List Nat
deriving DecidableEq, Repr

/-- A table: what a character is found in by its code point. -/
abbrev Runs := List Run

namespace Run

def contains (run : Run) (code : Nat) : Bool :=
  run.first ≤ code && code ≤ run.last && (code - run.first) % run.stride = 0

/-- The text before a mark and the text after it, which is empty without one. -/
def cut (mark : Char) (text : List Char) : List Char × List Char :=
  (text.takeWhile (· != mark), (text.dropWhile (· != mark)).drop 1)

/-- The run that a word names. -/
def ofWord? (word : List Char) : Option Run := do
  let (run, values) := cut ':' word
  let (bounds, stride) := cut '/' run
  let (first, last) := cut '-' bounds
  let start ← Hex.number? first
  pure {
    first := start
    last := ← if last = [] then some start else Hex.number? last
    stride := ← if stride = [] then some 1 else Hex.number? stride
    values := ← if values = [] then some [] else (splitOn '.' values).mapM Hex.number? }

end Run

namespace Runs

def ofLines (lines : List String) : Runs :=
  lines.flatMap fun line => (splitOn ' ' line.toList).filterMap Run.ofWord?

def run? (runs : Runs) (c : Char) : Option Run :=
  runs.find? fun run => run.contains c.toNat

def holds (runs : Runs) (c : Char) : Bool :=
  runs.any fun run => run.contains c.toNat

end Runs

end RowStore.Text
