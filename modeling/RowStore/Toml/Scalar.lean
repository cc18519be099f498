import RowStore.Text.Split
import RowStore.Toml.Moment
import RowStore.Value

/-!
# Plain scalars

A scalar without quotes is one of two words, a moment, an integer in one of four bases or a real number. Digits
may be grouped by single underscores. A number that is not finite is null, and a moment is an object with its
text.
-/

namespace RowStore.Toml.Scalar

set_option autoImplicit false

/-- The digits of a row of them that may be grouped. -/
def ungroup? (isDigit : Char → Bool) (text : List Char) : Option (List Char) :=
  let groups := Text.splitOn '_' text
  if groups.all fun group => !group.isEmpty && group.all isDigit then some groups.flatten else none

/-- The digits of a whole number, which begins with a zero only if it is zero. -/
def whole? (text : List Char) : Option (List Char) :=
  (ungroup? Char.isDigit text).filter fun digits => digits.head? ≠ some '0' || text.length = 1

def decimalInteger? (text : List Char) : Option Int := do
  let (negative, body) := Numeral.takeSign text
  let digits ← whole? body
  Numeral.int64? (if negative then '-' :: digits else digits)

def digitValue (c : Char) : Nat :=
  if c.isDigit then c.toNat - '0'.toNat else c.toLower.toNat - 'a'.toNat + 10

/-- An integer of 63 bits in a base that is a power of two. -/
def basedInteger? (base : Nat) (text : List Char) : Option Int := do
  let digits ← ungroup? (fun c => c.isAlphanum && digitValue c < base) text
  let n := digits.foldl (fun n digit => base * n + digitValue digit) 0
  if (n : Int) ≤ Numeral.greatestInt64 then some n else none

def integer? : List Char → Option Int
  | '0' :: 'x' :: rest => basedInteger? 16 rest
  | '0' :: 'o' :: rest => basedInteger? 8 rest
  | '0' :: 'b' :: rest => basedInteger? 2 rest
  | text => decimalInteger? text

def exponent? (text : List Char) : Option (List Char) :=
  let (negative, body) := Numeral.takeSign text
  (ungroup? Char.isDigit body).map fun digits => if negative then '-' :: digits else digits

/-- A real number without the underscores in it: it has a point, an exponent or both. -/
def numeral? (text : List Char) : Option (List Char) := do
  let (whole, afterWhole) := text.span fun c => c.isDigit || c = '_'
  let (upper, power) := afterWhole.span fun c => c != 'e' && c != 'E'
  let whole ← whole? whole
  let fraction ← match upper with
    | [] => some []
    | c :: digits => if c = '.' then (ungroup? Char.isDigit digits).map ('.' :: ·) else none
  let exponent ← match power with
    | [] => some []
    | _ :: digits => (exponent? digits).map ('e' :: ·)
  if fraction = [] ∧ exponent = [] then none else some (whole ++ fraction ++ exponent)

/-- A real number. Below the range it is null, above it is no scalar. -/
def real? (text : List Char) : Option Value := do
  let (negative, body) := Numeral.takeSign text
  if body = "inf".toList ∨ body = "nan".toList then some .null
  else
    let digits ← numeral? body
    match Binary64.ofText? (if negative then '-' :: digits else digits) with
    | some x => some (.number (.real x))
    | none => if negative then some .null else none

def momentValue (text : List Char) : Value :=
  .object [("$__toml_private_datetime", .string (String.ofList text))]

/-- The value that a whole text without quotes spells. -/
def ofText? (text : List Char) : Option Value :=
  if text = "true".toList then some (.bool true)
  else if text = "false".toList then some (.bool false)
  else ((Moment.ofText? text).map momentValue).or <|
    ((integer? text).map .ofInt).or (real? text)

def isPart (c : Char) : Bool :=
  c.isAlphanum || c = '_' || c = '+' || c = '-' || c = '.' || c = ':'

/-- The text of the scalar that a text starts with, and what follows it. A date goes on after a space if a
digit follows. -/
def extent (text : List Char) : List Char × List Char :=
  let (run, after) := text.span isPart
  match (Moment.date? run).map Prod.snd, after with
  | some [], ' ' :: c :: rest =>
    if c.isDigit then
      let (more, after) := (c :: rest).span isPart
      (run ++ ' ' :: more, after)
    else (run, after)
  | _, _ => (run, after)

/-- The scalar that a text starts with, and what follows it. -/
def scalar? (text : List Char) : Option (Value × List Char) :=
  let (run, after) := extent text
  (ofText? run).map (·, after)

end RowStore.Toml.Scalar
