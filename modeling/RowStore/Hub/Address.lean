import RowStore.Number.Numeral
import RowStore.Text.Groups
import RowStore.Text.Hex

/-!
# Addresses

A hub listens at a host, of version 4 or 6, and at a numbered endpoint on it. The strict form is read: four
decimal octets without leading zeros, or groups of one to four hexadecimal digits between brackets, of which one
run may be left out and the last two may be written as octets. There are no names and no blanks.
-/

namespace RowStore.Hub

set_option autoImplicit false

inductive Host where
  | v4 (octets : List Nat)
  | v6 (groups : List Nat) (scope : Nat)
deriving DecidableEq, Repr

/-- A host, and the number of an endpoint on it, below `65536`. -/
structure Address where
  host : Host
  endpoint : Nat
deriving DecidableEq, Repr

namespace Address

/-- A decimal number below a bound, and what follows it. -/
def number? (bound : Nat) (text : List Char) : Option (Nat × List Char) := do
  let (digits, rest) := text.span Char.isDigit
  let n ← Numeral.natural? digits
  if n < bound then some (n, rest) else none

def octet? (text : List Char) : Option (Nat × List Char) :=
  let digits := text.takeWhile Char.isDigit
  if digits.length ≤ 3 ∧ (digits.length = 1 ∨ digits.head? ≠ some '0') then number? 256 text else none

/-- The text after a character that has to come next. -/
def after? (mark : Char) : List Char → Option (List Char)
  | c :: rest => if c = mark then some rest else none
  | [] => none

def octets? (text : List Char) : Option (List Nat × List Char) := do
  let (a, rest) ← octet? text
  let (b, rest) ← after? '.' rest >>= octet?
  let (c, rest) ← after? '.' rest >>= octet?
  let (d, rest) ← after? '.' rest >>= octet?
  pure ([a, b, c, d], rest)

def group? (text : List Char) : Option (Nat × List Char) := do
  let (digits, rest) := text.span Text.Hex.isDigit
  let group ← Text.Hex.number? digits
  if 1 ≤ digits.length ∧ digits.length ≤ 4 then some (group, rest) else none

def octetGroups? (text : List Char) : Option (List Nat × List Char) := do
  match ← octets? text with
  | ([a, b, c, d], rest) => some ([256 * a + b, 256 * c + d], rest)
  | _ => none

/-- As many groups as there are, up to a limit, whether they end in the form of octets, and what follows. -/
def groups (opening : Option Char) : Nat → List Char → List Nat × Bool × List Char
  | 0, text => ([], false, text)
  | limit + 1, text =>
    let body := match opening with
      | some mark => after? mark text
      | none => some text
    match if limit = 0 then none else body >>= octetGroups? with
    | some (pair, rest) => (pair, true, rest)
    | none =>
      match body >>= group? with
      | some (group, rest) =>
        let (more, octets, rest) := groups (some ':') limit rest
        (group :: more, octets, rest)
      | none => ([], false, text)

/-- Eight groups, of which a run may be left out. -/
def eightGroups? (text : List Char) : Option (List Nat × List Char) :=
  match groups none 8 text with
  | (front, octets, rest) =>
    if front.length = 8 then some (front, rest)
    else if octets then none
    else match rest with
      | ':' :: ':' :: rest =>
        let (back, _, rest) := groups none (7 - front.length) rest
        some (front ++ List.replicate (8 - front.length - back.length) 0 ++ back, rest)
      | _ => none

def endpoint? (text : List Char) : Option Nat := do
  match ← after? ':' text >>= number? 65536 with
  | (endpoint, []) => some endpoint
  | _ => none

/-- The number of a scope after a percent sign, or zero. -/
def scope? : List Char → Option (Nat × List Char)
  | '%' :: rest => number? 0x100000000 rest
  | rest => some (0, rest)

def ofText? (text : String) : Option Address :=
  match text.toList with
  | '[' :: body => do
    let (groups, rest) ← eightGroups? body
    let (scope, rest) ← scope? rest
    let endpoint ← after? ']' rest >>= endpoint?
    pure ⟨.v6 groups scope, endpoint⟩
  | body => do
    let (octets, rest) ← octets? body
    let endpoint ← endpoint? rest
    pure ⟨.v4 octets, endpoint⟩

/-- Groups as text; a host of version 4 in its upper form shows its octets. -/
def groupsText (groups : List Nat) : String :=
  match groups with
  | [0, 0, 0, 0, 0, 0xFFFF, high, low] =>
    "::ffff:" ++ Text.octetsText [high / 256, high % 256, low / 256, low % 256]
  | _ => Text.groupsText groups

def text (address : Address) : String :=
  match address.host with
  | .v4 octets => Text.octetsText octets ++ ":" ++ toString address.endpoint
  | .v6 groups scope =>
    let scope := if scope = 0 then "" else "%" ++ toString scope
    "[" ++ groupsText groups ++ scope ++ "]:" ++ toString address.endpoint

end Address

end RowStore.Hub
