import RowStore.Number.Numeral

/-!
# Dates and times

A date, a time of day, or both with an optional distance from universal time. The parts of both are divided by a
T or a space. A moment is kept as its text, in one spelling: a capital T, a capital Z, and at most nine decimals
of a second without zeros at their end.
-/

namespace RowStore.Toml.Moment

set_option autoImplicit false

def isLeap (year : Nat) : Bool :=
  year % 4 = 0 && (year % 100 != 0 || year % 400 = 0)

def daysIn (year month : Nat) : Nat :=
  if month = 2 then if isLeap year then 29 else 28
  else if month ∈ [4, 6, 9, 11] then 30
  else 31

def date? : List Char → Option (List Char × List Char)
  | a :: b :: c :: d :: '-' :: e :: f :: '-' :: g :: h :: rest => do
    let year ← Numeral.natural? [a, b, c, d]
    let month ← Numeral.natural? [e, f]
    let day ← Numeral.natural? [g, h]
    if 1 ≤ month ∧ month ≤ 12 ∧ 1 ≤ day ∧ day ≤ daysIn year month then
      some ([a, b, c, d, '-', e, f, '-', g, h], rest)
    else none
  | _ => none

def decimals? : List Char → Option (List Char × List Char)
  | '.' :: rest =>
    let (digits, after) := rest.span Char.isDigit
    let kept := ((digits.take 9).reverse.dropWhile (· == '0')).reverse
    if digits = [] then none else some (if kept = [] then [] else '.' :: kept, after)
  | rest => some ([], rest)

/-- A time of day at the start of a text; a second may be a leap second. -/
def time? : List Char → Option (List Char × List Char)
  | a :: b :: ':' :: c :: d :: ':' :: e :: f :: rest => do
    let hour ← Numeral.natural? [a, b]
    let minute ← Numeral.natural? [c, d]
    let second ← Numeral.natural? [e, f]
    let (decimals, after) ← decimals? rest
    if hour ≤ 23 ∧ minute ≤ 59 ∧ second ≤ 60 then
      some ([a, b, ':', c, d, ':', e, f] ++ decimals, after)
    else none
  | _ => none

/-- The distance from universal time that makes up a whole text, or nothing. -/
def distance? : List Char → Option (List Char)
  | [] => some []
  | ['Z'] | ['z'] => some ['Z']
  | [sign, a, b, ':', c, d] => do
    let hours ← Numeral.natural? [a, b]
    let minutes ← Numeral.natural? [c, d]
    if (sign = '+' ∨ sign = '-') ∧ hours ≤ 23 ∧ minutes ≤ 59 then
      some [if hours = 0 ∧ minutes = 0 then '+' else sign, a, b, ':', c, d]
    else none
  | _ => none

/-- The moment that a whole text spells, in its one spelling. -/
def ofText? (text : List Char) : Option (List Char) :=
  match date? text with
  | some (date, []) => some date
  | some (date, mark :: rest) => do
    let (time, after) ← time? rest
    let distance ← distance? after
    if mark = 'T' ∨ mark = 't' ∨ mark = ' ' then some (date ++ 'T' :: time ++ distance) else none
  | none =>
    match time? text with
    | some (time, []) => some time
    | _ => none

end RowStore.Toml.Moment
