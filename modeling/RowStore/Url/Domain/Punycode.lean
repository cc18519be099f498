import RowStore.Text.Step

/-!
# International labels in ASCII

A label is written as its ASCII characters, a hyphen, and a row of numbers that say which other characters are
put in between, in the order of their code points: each number is the distance to the next place, counted over
all places for all code points. A number is written in digits of base 36, the least significant one first; a
digit below the threshold of its place ends it. The thresholds follow the size of the numbers so far.
-/

namespace RowStore.Url.Domain.Punycode

set_option autoImplicit false

def base : Nat := 36

def greatestThreshold : Nat := 26

def firstBias : Nat := 72

/-- The least code point that is not ASCII. -/
def firstCode : Nat := 0x80

/-- The threshold of a place, between 1 and 26. -/
def threshold (place bias : Nat) : Nat :=
  max 1 (min greatestThreshold (place - bias))

theorem threshold_pos (place bias : Nat) : 0 < threshold place bias := by
  unfold threshold
  omega

/-- How often a number is too large for the last place, and what is left of it. -/
def scaleDown (n steps : Nat) : Nat × Nat :=
  if h : 455 < n then scaleDown (n / 35) (steps + 1) else (n, steps)
termination_by n
decreasing_by exact Nat.div_lt_self (by omega) (by omega)

/-- The bias after a number for one of some places. -/
def adapt (delta places : Nat) (first : Bool) : Nat :=
  let delta := if first then delta / 700 else delta / 2
  let (rest, steps) := scaleDown (delta + delta / places) 0
  base * steps + base * rest / (rest + 38)

/-! Writing -/

/-- A digit: a letter, or a decimal digit from 26 on. -/
def digitChar (digit : Nat) : Char :=
  Char.ofNat (if digit < 26 then 0x61 + digit else 0x30 + (digit - 26))

/-- The digits of a number from a place on. -/
def digits (bias place n : Nat) : List Char :=
  let limit := threshold place bias
  if n < limit then [digitChar n]
  else digitChar (limit + (n - limit) % (base - limit)) ::
    digits bias (place + base) ((n - limit) / (base - limit))
termination_by n
decreasing_by
  have := threshold_pos place bias
  calc (n - threshold place bias) / (base - threshold place bias)
      ≤ n - threshold place bias := Nat.div_le_self _ _
    _ < n := by omega

/-- What is written so far, the distance since the last number, the bias, and how many characters are placed. -/
structure Writing where
  output : List Char
  delta : Nat
  bias : Nat
  placed : Nat

namespace Writing

/-- Passes a character of the label while a code point is placed. -/
def pass (basics code : Nat) (writing : Writing) (c : Char) : Writing :=
  if c.toNat < code then { writing with delta := writing.delta + 1 }
  else if c.toNat = code then {
    output := writing.output ++ digits writing.bias base writing.delta
    delta := 0
    bias := adapt writing.delta (writing.placed + 1) (writing.placed = basics)
    placed := writing.placed + 1 }
  else writing

/-- Places a code point wherever it stands in the label, and goes on to the one after it. -/
def place (label : List Char) (basics : Nat) (step : Writing × Nat) (code : Nat) : Writing × Nat :=
  let (writing, next) := step
  let skipped := { writing with delta := writing.delta + (code - next) * (writing.placed + 1) }
  let passed := label.foldl (pass basics code) skipped
  ({ passed with delta := passed.delta + 1 }, code + 1)

end Writing

def encode (label : List Char) : List Char :=
  let basics := label.filter fun c => c.toNat < firstCode
  let codes := ((label.map Char.toNat).filter (firstCode ≤ ·)).mergeSort.eraseDups
  let (writing, _) := codes.foldl (Writing.place label basics.length)
    (⟨[], 0, firstBias, basics.length⟩, firstCode)
  basics ++ (if basics = [] then [] else ['-']) ++ writing.output

/-! Reading -/

def digit? (c : Char) : Option Nat :=
  if 'a' ≤ c ∧ c ≤ 'z' then some (c.toNat - 0x61)
  else if 'A' ≤ c ∧ c ≤ 'Z' then some (c.toNat - 0x41)
  else if c.isDigit then some (c.toNat - 0x30 + 26)
  else none

/-- The number that a text starts with, from a place of some weight on, and what follows it. -/
def number? (bias : Nat) : Nat → Nat → List Char → Option (Nat × List Char)
  | _, _, [] => none
  | place, weight, c :: rest => do
    let digit ← digit? c
    let limit := threshold place bias
    if digit < limit then some (digit * weight, rest)
    else
      let (more, after) ← number? bias (place + base) (weight * (base - limit)) rest
      some (digit * weight + more, after)

/-- Puts the characters of a row of numbers between those that are there already. -/
def insertAll (label : List Char) (code index bias : Nat) (text : List Char) : Option (List Char) :=
  if text = [] then some label
  else match Text.step? text (number? bias base 1 text) with
    | none => none
    | some ⟨(delta, rest), _⟩ =>
      let places := label.length + 1
      let next := code + (index + delta) / places
      let spot := (index + delta) % places
      if next.isValidChar then
        insertAll (label.take spot ++ Char.ofNat next :: label.drop spot) next (spot + 1)
          (adapt delta places (index = 0)) rest
      else none
termination_by text.length
decreasing_by dsimp only at *; omega

def decode? (text : List Char) : Option (List Char) :=
  let extension := (text.reverse.takeWhile (· != '-')).reverse
  let basics := text.take (text.length - extension.length - 1)
  if text.any fun c => firstCode ≤ c.toNat then none
  else if extension.length < text.length ∧ basics = [] then none
  else insertAll basics firstCode 0 firstBias extension

end RowStore.Url.Domain.Punycode
