import RowStore.Number.Numeral
import RowStore.Text.Groups
import RowStore.Url.Domain
import RowStore.Url.Percent

/-!
# Hosts of addresses

In an address of the web a host is a name, a number of 32 bits or, between brackets, a number of 128 bits. A name
that ends in a number has to be one of 32 bits: up to four parts with points between them, each in decimal, octal
or hexadecimal digits, of which the last one fills what the others leave. In other addresses a host is a text
without the marks that divide an address.
-/

namespace RowStore.Url

set_option autoImplicit false

inductive Host where
  | name (text : List Char)
  | v4 (number : Nat)
  | v6 (groups : List Nat)
deriving DecidableEq, Repr

inductive HostFault where
  | noHost
  | badName
  | badCharacter
  | badV4
  | badV6
deriving DecidableEq, Repr

namespace Host

/-! Numbers of 32 bits -/

/-- A number in decimal digits, in octal ones after a zero, or in hexadecimal ones after a zero and an x. No digits
after them are a zero. -/
def partNumber? (text : List Char) : Option Nat :=
  match text with
  | [] => none
  | ['0'] => some 0
  | '0' :: x :: digits =>
    if x = 'x' ∨ x = 'X' then Text.Hex.number? digits
    else if (x :: digits).all fun c => '0' ≤ c ∧ c ≤ '7' then
      some ((x :: digits).foldl (fun n c => 8 * n + (c.toNat - '0'.toNat)) 0)
    else none
  | digits => Numeral.natural? digits

def nameParts (text : List Char) : List (List Char) :=
  let parts := Text.splitOn '.' text
  if parts.getLast? = some [] then parts.dropLast else parts

def endsInNumber (text : List Char) : Bool :=
  match (nameParts text).getLast? with
  | some last => (!last.isEmpty && last.all Char.isDigit) || (partNumber? last).isSome
  | none => false

/-- How many values the parts after some others have together. -/
def valuesAfter : Nat → Nat
  | 0 => 0x100000000
  | 1 => 0x1000000
  | 2 => 0x10000
  | _ => 0x100

/-- The number of 32 bits of some parts. -/
def joinParts? (numbers : List Nat) : Option Nat :=
  let front := numbers.dropLast
  match numbers.getLast? with
  | some last =>
    if numbers.length ≤ 4 ∧ front.all (· < 0x100) ∧ last < valuesAfter front.length then
      some (front.foldl (fun n part => 0x100 * n + part) 0 * valuesAfter front.length + last)
    else none
  | none => none

/-- The number that a name ending in one has to be. -/
def v4Number? (text : List Char) : Option Nat :=
  (nameParts text).mapM partNumber? >>= joinParts?

def octets (number : Nat) : List Nat :=
  [number / 0x1000000, number / 0x10000 % 0x100, number / 0x100 % 0x100, number % 0x100]

/-! Numbers of 128 bits -/

def group? (text : List Char) : Option Nat :=
  if text ≠ [] ∧ text.length ≤ 4 then Text.Hex.number? text else none

/-- A decimal octet without zeros in front. -/
def octet? (text : List Char) : Option Nat :=
  if text.length ≤ 3 ∧ (text.length = 1 ∨ text.head? ≠ some '0') then
    (Numeral.natural? text).filter (· < 0x100)
  else none

/-- The groups of one piece; the last piece of all may be four octets, which are two groups. -/
def pieceGroups? (last : Bool) (piece : List Char) : Option (List Nat) :=
  if last ∧ piece.contains '.' then
    match (Text.splitOn '.' piece).mapM octet? with
    | some [a, b, c, d] => some [0x100 * a + b, 0x100 * c + d]
    | _ => none
  else (group? piece).map ([·])

def groupsOf? (final : Bool) : List (List Char) → Option (List Nat)
  | [] => some []
  | piece :: rest => do
    let groups ← pieceGroups? (final && rest.isEmpty) piece
    let more ← groupsOf? final rest
    pure (groups ++ more)

/-- The pieces before and after the first pair of colons, if there is one. -/
def cutRun? : List Char → Option (List Char × List Char)
  | ':' :: ':' :: rest => some ([], rest)
  | c :: rest => (cutRun? rest).map fun (before, after) => (c :: before, after)
  | [] => none

def pieces (text : List Char) : List (List Char) :=
  if text = [] then [] else Text.splitOn ':' text

/-- Eight groups, of which a run of zeros may be left out. -/
def v6Groups? (text : List Char) : Option (List Nat) :=
  match cutRun? text with
  | none => (groupsOf? true (pieces text)).filter (·.length = 8)
  | some (before, after) => do
    let front ← groupsOf? false (pieces before)
    let back ← groupsOf? true (pieces after)
    if front.length + back.length < 8 then
      some (front ++ List.replicate (8 - front.length - back.length) 0 ++ back)
    else none

def bracketed (text : List Char) : Except HostFault Host :=
  if text.getLast? = some ']' then
    match v6Groups? text.dropLast with
    | some groups => .ok (v6 groups)
    | none => .error .badV6
  else .error .badV6

/-! Reading and writing -/

def ofText (text : List Char) : Except HostFault Host :=
  match text with
  | '[' :: rest => bracketed rest
  | _ =>
    match Text.Utf8.decode? (percentDecode (Text.Utf8.encode text)) >>= Domain.ofText? with
    | none => .error .badName
    | some [] => .error .noHost
    | some domain =>
      if endsInNumber domain then
        match v4Number? domain with
        | some number => .ok (v4 number)
        | none => .error .badV4
      else .ok (name domain)

/-- Marks that divide an address, and blanks. -/
def isDivider (c : Char) : Bool :=
  c = '\x00' || c = '\t' || c = '\n' || c = '\r' || " #/:<>?@[\\]^|".toList.contains c

/-- The octets that no host keeps as they are are the controls and those that are no ASCII. -/
def isPlain (octet : Nat) : Bool :=
  0x20 ≤ octet && octet < 0x7F

def ofPlainText (text : List Char) : Except HostFault Host :=
  match text with
  | '[' :: rest => bracketed rest
  | _ => if text.any isDivider then .error .badCharacter else .ok (name (escapeUnless isPlain text))

def text : Host → String
  | name text => String.ofList text
  | v4 number => Text.octetsText (octets number)
  | v6 groups => "[" ++ Text.groupsText groups ++ "]"

end Host

end RowStore.Url
