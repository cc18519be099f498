import RowStore.Text.Hex
import RowStore.Text.Step
import RowStore.Value

/-!
# Values from JSON text

The reader takes one token after the other and keeps the containers that are still open in a list, so it needs
no bound but the text itself. A name that is repeated in an object keeps its first place and its last value.

Integers are read exactly when 64 bits hold them. Every other numeral is read by the digits that fit into an
unsigned word of 64 bits, which are rounded to a double and then scaled by powers of ten.
-/

namespace RowStore.Json

set_option autoImplicit false

/-- Appends digits to a significand as long as the word holds it; also the number of digits left over. -/
def accumulate (significand : Nat) : List Char → Nat × Nat
  | [] => (significand, 0)
  | digit :: rest =>
    let next := Numeral.ofDigits [digit] + 10 * significand
    if next < Numeral.wordBound then accumulate next rest else (significand, rest.length + 1)

/-- A numeral with a fraction, an exponent or too many digits. -/
def realOf? (negative : Bool) (whole fraction : List Char) (exponent : Int) : Option Binary64 :=
  let (upper, wholeLeft) := accumulate 0 whole
  let (significand, fractionLeft) := accumulate upper fraction
  let shift : Int := wholeLeft - ((fraction.length : Int) - fractionLeft)
  ((Binary64.ofInt significand).scale? (shift + exponent)).map fun x =>
    if negative then x.neg else x

/-- A whole numeral: an integer if 64 bits hold it, else a double. Minus zero is a double. -/
def wholeOf? (negative : Bool) (digits : List Char) : Option Number :=
  let n := Numeral.ofDigits digits
  if negative then
    if 0 < n ∧ Numeral.leastInt64 ≤ -(n : Int) then some (.integer (-(n : Int)))
    else (realOf? true digits [] 0).map .real
  else if n < Numeral.wordBound then some (.integer n)
  else (realOf? false digits [] 0).map .real

/-- The digits after a point, at least one; nothing if there is no point. -/
def fraction? : List Char → Option (Option (List Char) × List Char)
  | '.' :: rest =>
    let (digits, after) := rest.span Char.isDigit
    if digits = [] then none else some (some digits, after)
  | rest => some (none, rest)

def exponent? : List Char → Option (Option Int × List Char)
  | c :: rest =>
    if c = 'e' ∨ c = 'E' then
      let (negative, body) := Numeral.takeSign rest
      let (digits, after) := body.span Char.isDigit
      (Numeral.natural? digits).map fun n => (some (if negative then -(n : Int) else n), after)
    else some (none, c :: rest)
  | [] => some (none, [])

/-- The number at the start of a text, and what follows it. Only zero itself starts with a zero. -/
def number? (text : List Char) : Option (Number × List Char) := do
  let (negative, body) := match text with
    | '-' :: rest => (true, rest)
    | rest => (false, rest)
  let (whole, afterWhole) := body.span Char.isDigit
  if whole = [] ∨ (whole.head? = some '0' ∧ 1 < whole.length) then none
  let (fraction, afterFraction) ← fraction? afterWhole
  let (exponent, rest) ← exponent? afterFraction
  let n ← match fraction, exponent with
    | none, none => wholeOf? negative whole
    | _, _ => (realOf? negative whole (fraction.getD []) (exponent.getD 0)).map .real
  pure (n, rest)

/-- The character that a one-letter escape stands for. -/
def shortEscape? : Char → Option Char
  | '"' => some '"'
  | '\\' => some '\\'
  | '/' => some '/'
  | 'b' => some '\x08'
  | 'f' => some '\x0c'
  | 'n' => some '\n'
  | 'r' => some '\r'
  | 't' => some '\t'
  | _ => none

def isHighSurrogate (n : Nat) : Bool := 0xD800 ≤ n ∧ n < 0xDC00
def isLowSurrogate (n : Nat) : Bool := 0xDC00 ≤ n ∧ n < 0xE000

def pairCode (high low : Nat) : Nat :=
  0x10000 + (high - 0xD800) * 0x400 + (low - 0xDC00)

/-- The rest of a string after its opening quote, and what follows the closing one. `high` is the first half of
a pair of surrogates when its second half has to come next. -/
def stringBody? (high : Option Nat) : List Char → Option (List Char × List Char)
  | [] => none
  | '"' :: rest => if high.isNone then some ([], rest) else none
  | '\\' :: 'u' :: a :: b :: c :: d :: rest => do
    let code ← Text.Hex.number? [a, b, c, d]
    match high with
    | some first =>
      if isLowSurrogate code then
        let (body, after) ← stringBody? none rest
        pure (Char.ofNat (pairCode first code) :: body, after)
      else none
    | none =>
      if isHighSurrogate code then stringBody? (some code) rest
      else if isLowSurrogate code then none
      else
        let (body, after) ← stringBody? none rest
        pure (Char.ofNat code :: body, after)
  | '\\' :: e :: rest => do
    if high.isSome then none
    let c ← shortEscape? e
    let (body, after) ← stringBody? none rest
    pure (c :: body, after)
  | c :: rest => do
    if high.isSome ∨ c.toNat < 0x20 then none
    let (body, after) ← stringBody? none rest
    pure (c :: body, after)

inductive Token where
  | punct (c : Char)
  | text (s : List Char)
  | scalar (v : Value)

def isSpace (c : Char) : Bool :=
  c = ' ' ∨ c = '\n' ∨ c = '\t' ∨ c = '\r'

def word? : List Char → Option (Value × List Char)
  | 'n' :: 'u' :: 'l' :: 'l' :: rest => some (.null, rest)
  | 't' :: 'r' :: 'u' :: 'e' :: rest => some (.bool true, rest)
  | 'f' :: 'a' :: 'l' :: 's' :: 'e' :: rest => some (.bool false, rest)
  | _ => none

/-- The token that a text without leading space starts with, and what follows it. -/
def tokenHere? : List Char → Option (Token × List Char)
  | [] => none
  | c :: rest =>
    if "[],:".toList.contains c ∨ c = '\x7b' ∨ c = '\x7d' then some (.punct c, rest)
    else if c = '"' then (stringBody? none rest).map fun (s, after) => (.text s, after)
    else if c = '-' ∨ c.isDigit then (number? (c :: rest)).map fun (n, after) => (.scalar (.number n), after)
    else (word? (c :: rest)).map fun (v, after) => (.scalar v, after)

def token? (text : List Char) : Option (Token × List Char) :=
  tokenHere? (text.dropWhile isSpace)

/-- The name and the colon in front of a field's value. -/
def fieldName? (text : List Char) : Option (String × List Char) :=
  match token? text with
  | some (.text name, afterName) =>
    match token? afterName with
    | some (.punct ':', rest) => some (String.ofList name, rest)
    | _ => none
  | _ => none

/-- A container that is still open: a list with its items in reverse, or an object that waits for the value of
a name. -/
inductive Frame where
  | array (done : List Value)
  | object (done : Fields) (name : String)

/-- What comes next: a value that is finished, or one inside a container. -/
inductive Stage where
  | finished (value : Value)
  | inside (frame : Frame)

def Token.opens : Token → Bool
  | punct '[' | punct '\x7b' => true
  | _ => false

/-- The start of a value; with no depth left, it is no container. -/
def start? (deeper : Bool) (text : List Char) : Option (Stage × List Char) := do
  let (token, rest) ← token? text
  if token.opens ∧ !deeper then none
  match token with
  | .scalar v => some (.finished v, rest)
  | .text s => some (.finished (.string (String.ofList s)), rest)
  | .punct '[' =>
    match token? rest with
    | some (.punct ']', after) => some (.finished (.array []), after)
    | _ => some (.inside (.array []), rest)
  | .punct '\x7b' =>
    match token? rest with
    | some (.punct '\x7d', after) => some (.finished (.object []), after)
    | _ => (fieldName? rest).map fun (name, after) => (.inside (.object [] name), after)
  | .punct _ => none

/-- Puts a value into the container that it stands in. -/
def continue? (frame : Frame) (value : Value) (text : List Char) : Option (Stage × List Char) :=
  match frame, token? text with
  | .array done, some (.punct ',', rest) => some (.inside (.array (value :: done)), rest)
  | .array done, some (.punct ']', rest) => some (.finished (.array (value :: done).reverse), rest)
  | .object done name, some (.punct ',', rest) =>
    (fieldName? rest).map fun (next, after) => (.inside (.object (Entries.insert name value done) next), after)
  | .object done name, some (.punct '\x7d', rest) =>
    some (.finished (.object (Entries.insert name value done)), rest)
  | _, _ => none

mutual

/-- Reads a value inside the open containers and goes on from there. -/
def readValue? (limit : Nat) (frames : List Frame) (text : List Char) : Option (Value × List Char) :=
  match Text.step? text (start? (frames.length < limit) text) with
  | none => none
  | some ⟨(.finished value, rest), _⟩ => resume? limit frames value rest
  | some ⟨(.inside frame, rest), _⟩ => readValue? limit (frame :: frames) rest
termination_by text.length
decreasing_by all_goals dsimp only at *; omega

/-- Puts a finished value into the innermost open container and goes on; with none open it is the answer. -/
def resume? (limit : Nat) (frames : List Frame) (value : Value) (text : List Char) : Option (Value × List Char) :=
  match frames with
  | [] => some (value, text)
  | frame :: outer =>
    match Text.step? text (continue? frame value text) with
    | none => none
    | some ⟨(.finished value, rest), _⟩ => resume? limit outer value rest
    | some ⟨(.inside frame, rest), _⟩ => readValue? limit (frame :: outer) rest
termination_by text.length
decreasing_by all_goals dsimp only at *; omega

end

def nestingLimit : Nat := 127

/-- The value at the start of a text, and what follows it. -/
def readPrefix? (text : String) : Option (Value × List Char) :=
  readValue? nestingLimit [] text.toList

/-- The value of a whole text nested at most `limit` deep. -/
def readWithin? (limit : Nat) (text : String) : Option Value :=
  match readValue? limit [] text.toList with
  | some (value, rest) => if rest.all isSpace then some value else none
  | none => none

def read? (text : String) : Option Value :=
  readWithin? nestingLimit text

end RowStore.Json
