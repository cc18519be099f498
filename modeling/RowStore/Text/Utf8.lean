/-!
# Text as octets

Every character is one to four octets. Reading goes octet by octet: a first octet says how many are owed and in
which range the next one has to be; what does not fit ends the sequence it stands in and may start another.
-/

namespace RowStore.Text.Utf8

set_option autoImplicit false

/-- Octets are natural numbers below 256. -/
abbrev Octets := List Nat

def encodeChar (c : Char) : Octets :=
  let n := c.toNat
  if n < 0x80 then [n]
  else if n < 0x800 then [0xC0 + n / 0x40, 0x80 + n % 0x40]
  else if n < 0x10000 then [0xE0 + n / 0x1000, 0x80 + n / 0x40 % 0x40, 0x80 + n % 0x40]
  else [0xF0 + n / 0x40000, 0x80 + n / 0x1000 % 0x40, 0x80 + n / 0x40 % 0x40, 0x80 + n % 0x40]

def encode (text : List Char) : Octets :=
  text.flatMap encodeChar

/-- A sequence that has begun: how many octets it owes, the range of the next one, and the bits so far. -/
structure Pending where
  owed : Nat
  least : Nat
  greatest : Nat
  bits : Nat

/-- What a first octet begins. -/
inductive Lead where
  | whole (c : Char)
  | pending (p : Pending)
  | bad

def lead (b : Nat) : Lead :=
  if b < 0x80 then .whole (Char.ofNat b)
  else if 0xC2 ≤ b ∧ b ≤ 0xDF then .pending ⟨1, 0x80, 0xBF, b - 0xC0⟩
  else if 0xE0 ≤ b ∧ b ≤ 0xEF then
    .pending ⟨2, if b = 0xE0 then 0xA0 else 0x80, if b = 0xED then 0x9F else 0xBF, b - 0xE0⟩
  else if 0xF0 ≤ b ∧ b ≤ 0xF4 then
    .pending ⟨3, if b = 0xF0 then 0x90 else 0x80, if b = 0xF4 then 0x8F else 0xBF, b - 0xF0⟩
  else .bad

/-- Reads octets; each sequence that makes no character is marked by nothing. -/
def scan : Option Pending → Octets → List (Option Char)
  | none, [] => []
  | some _, [] => [none]
  | none, b :: rest =>
    match lead b with
    | .whole c => some c :: scan none rest
    | .pending p => scan (some p) rest
    | .bad => none :: scan none rest
  | some p, b :: rest =>
    if p.least ≤ b ∧ b ≤ p.greatest then
      let bits := p.bits * 0x40 + b % 0x40
      if p.owed ≤ 1 then some (Char.ofNat bits) :: scan none rest
      else scan (some ⟨p.owed - 1, 0x80, 0xBF, bits⟩) rest
    else
      none :: match lead b with
        | .whole c => some c :: scan none rest
        | .pending p => scan (some p) rest
        | .bad => none :: scan none rest

/-- The text of octets, if they are one. -/
def decode? (octets : Octets) : Option (List Char) :=
  (scan none octets).mapM id

/-- The text of octets, with a mark for each sequence that makes no character. -/
def decodeLossy (octets : Octets) : List Char :=
  (scan none octets).map fun c => c.getD (Char.ofNat 0xFFFD)

end RowStore.Text.Utf8
