import RowStore.Number.Binary64

/-!
# Numerals in text

An integer numeral is an optional sign and ASCII digits. A decimal numeral may have a point, with digits on at
least one side of it, and an exponent, which is an integer numeral after the letter e. Nothing else may stand
in the text: no blanks, no separators, no names of infinities.
-/

namespace RowStore

set_option autoImplicit false

/-- A decimal numeral as written: `± coefficient * 10 ^ exponent`. -/
structure Decimal where
  negative : Bool
  coefficient : Nat
  exponent : Int
deriving DecidableEq, Repr, Inhabited

namespace Numeral

/-- The value of a row of digits, most significant first. -/
def ofDigits (digits : List Char) : Nat :=
  digits.foldl (fun n c => 10 * n + (c.toNat - '0'.toNat)) 0

@[simp] theorem ofDigits_nil : ofDigits [] = 0 := rfl

/-- Splits an optional sign off; the flag says whether it is a minus. -/
def takeSign : List Char → Bool × List Char
  | '-' :: rest => (true, rest)
  | '+' :: rest => (false, rest)
  | rest => (false, rest)

def natural? (text : List Char) : Option Nat :=
  if text ≠ [] ∧ text.all Char.isDigit then some (ofDigits text) else none

def integer? (text : List Char) : Option Int :=
  let (negative, digits) := takeSign text
  (natural? digits).map fun n => if negative then -(n : Int) else n

/-- The least integer that an unsigned word of 64 bits does not hold. -/
def wordBound : Nat := 0x10000000000000000

def leastInt64 : Int := -0x8000000000000000
def greatestInt64 : Int := 0x7FFFFFFFFFFFFFFF

def int64? (text : List Char) : Option Int :=
  (integer? text).filter fun n => decide (leastInt64 ≤ n ∧ n ≤ greatestInt64)

/-- The exponent part of a decimal numeral: nothing, or the letter e and an integer. -/
def exponent? : List Char → Option Int
  | [] => some 0
  | c :: rest => if c = 'e' ∨ c = 'E' then integer? rest else none

/-- The digits after an optional point, and what follows them. -/
def takeFraction : List Char → List Char × List Char
  | '.' :: rest => rest.span Char.isDigit
  | rest => ([], rest)

def decimal? (text : List Char) : Option Decimal :=
  let (negative, body) := takeSign text
  let (whole, afterWhole) := body.span Char.isDigit
  let (fraction, afterFraction) := takeFraction afterWhole
  if whole = [] ∧ fraction = [] then none
  else (exponent? afterFraction).map fun e =>
    ⟨negative, ofDigits (whole ++ fraction), e - fraction.length⟩

end Numeral

def Decimal.toBinary64? (d : Decimal) : Option Binary64 :=
  Binary64.ofDecimal? d.negative d.coefficient d.exponent

def Binary64.ofText? (text : List Char) : Option Binary64 :=
  Numeral.decimal? text >>= Decimal.toBinary64?

end RowStore
