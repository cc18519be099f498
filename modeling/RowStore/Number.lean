import RowStore.Number.Numeral
import RowStore.Number.Shortest

/-!
# Numbers

A number is an integer or a finite double, and keeps which of the two it is. Integers are those of 64 bits,
signed or unsigned; every other numeral is a double.
-/

namespace RowStore

set_option autoImplicit false

inductive Number where
  | integer (n : Int)
  | real (x : Binary64)
deriving DecidableEq, Repr, Inhabited

namespace Number

/-- The value as a double; an integer of more than 53 bits is rounded. -/
def toBinary64 : Number → Binary64
  | integer n => .ofInt n
  | real x => x

def int64? : Number → Option Int
  | integer n => if Numeral.leastInt64 ≤ n ∧ n ≤ Numeral.greatestInt64 then some n else none
  | real _ => none

def count? : Number → Option Nat
  | integer n => if 0 ≤ n ∧ n < Numeral.wordBound then some n.toNat else none
  | real _ => none

def clampInt64 (n : Int) : Int :=
  max Numeral.leastInt64 (min n Numeral.greatestInt64)

/-- The integer that a number stands for where one is asked for: a double loses its fraction, and what is out
of range goes to the nearest end of it. -/
def toInt64 (n : Number) : Int :=
  n.int64?.getD (clampInt64 n.toBinary64.truncate)

/-- Where a double is written with all its places and where with an exponent. -/
structure Layout where
  leastPositional : Int
  greatestPositional : Int
  decimalMark : Char
  exponentMark : Char

/-- Doubles from `10 ^ -5` up to `10 ^ 16` have all their places. -/
def layout : Layout where
  leastPositional := -5
  greatestPositional := 15
  decimalMark := '.'
  exponentMark := 'e'

/-- Digits with the point after the digit of exponent zero; at least one digit on either side of it. -/
def positional (mark : Char) (digits : List Char) (leading : Int) : List Char :=
  if leading < 0 then '0' :: mark :: (List.replicate (leading.natAbs - 1) '0' ++ digits)
  else
    let width := leading.toNat + 1
    let whole := digits.take width
    let fraction := digits.drop width
    whole ++ List.replicate (width - whole.length) '0'
      ++ mark :: (if fraction = [] then ['0'] else fraction)

/-- Digits with the point after the first, if more follow, and the exponent with its sign. -/
def scientific (layout : Layout) (digits : List Char) (leading : Int) : List Char :=
  digits.take 1 ++ (if digits.length ≤ 1 then [] else layout.decimalMark :: digits.drop 1)
    ++ layout.exponentMark :: (if leading < 0 then '-' else '+') :: Nat.toDigits 10 leading.natAbs

/-- The shortest text of a magnitude that reads back as the same double. -/
def magnitudeText (layout : Layout) (ticks : Nat) : List Char :=
  if ticks = 0 then ['0', layout.decimalMark, '0']
  else
    let (coefficient, exponent) := Binary64.shortest ticks
    let digits := Nat.toDigits 10 coefficient
    let leading := exponent + digits.length - 1
    let shown := (digits.reverse.dropWhile (· = '0')).reverse
    if layout.leastPositional ≤ leading ∧ leading ≤ layout.greatestPositional then
      positional layout.decimalMark shown leading
    else scientific layout shown leading

def integerText (n : Int) : List Char :=
  (if n < 0 then ['-'] else []) ++ Nat.toDigits 10 n.natAbs

def text : Number → List Char
  | integer n => integerText n
  | real x => (if x.negative then ['-'] else []) ++ magnitudeText layout x.ticks

end Number

end RowStore
