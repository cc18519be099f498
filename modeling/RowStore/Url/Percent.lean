import RowStore.Text.Hex
import RowStore.Text.Utf8

/-!
# Percent escapes

An octet may be written as a percent sign and two hexadecimal digits. A percent sign without them stands for
itself.
-/

namespace RowStore.Url

set_option autoImplicit false

open Text.Utf8 (Octets)

/-- Replaces every escape by its octet. -/
def percentDecode : Octets → Octets
  | 0x25 :: high :: low :: rest =>
    match Text.Hex.number? [Char.ofNat high, Char.ofNat low] with
    | some octet => octet :: percentDecode rest
    | none => 0x25 :: percentDecode (high :: low :: rest)
  | octet :: rest => octet :: percentDecode rest
  | [] => []

def upperHex (n : Nat) : Char :=
  (Nat.digitChar n).toUpper

def percentEscape (octet : Nat) : List Char :=
  ['%', upperHex (octet / 16), upperHex (octet % 16)]

/-- A text with an escape for every octet that may not stand for itself. -/
def escapeUnless (plain : Nat → Bool) (text : List Char) : List Char :=
  (Text.Utf8.encode text).flatMap fun octet => if plain octet then [Char.ofNat octet] else percentEscape octet

/-- The text that a part of a path stands for, if it is one. -/
def segmentText? (raw : List Char) : Option String :=
  (Text.Utf8.decode? (percentDecode (Text.Utf8.encode raw))).map String.ofList

end RowStore.Url
