import RowStore.Text.Split
import RowStore.Url.Percent

/-!
# Form encoding

Pairs of texts as one text: pairs are divided by ampersands, a name from its value by the first equals sign, a
space is a plus sign, and all but letters, digits and four marks is escaped.
-/

namespace RowStore.Url.Form

set_option autoImplicit false

def component (raw : List Char) : String :=
  let spaced := raw.map fun c => if c = '+' then ' ' else c
  String.ofList (Text.Utf8.decodeLossy (percentDecode (Text.Utf8.encode spaced)))

/-- A pair; without an equals sign the value is empty. -/
def pairOf (piece : List Char) : String × String :=
  (component (piece.takeWhile (· != '=')), component ((piece.dropWhile (· != '=')).drop 1))

/-- The pairs of a query; empty pieces are passed over. -/
def decode (query : List Char) : List (String × String) :=
  ((Text.splitOn '&' query).filter fun piece => !piece.isEmpty).map pairOf

def isPlain (octet : Nat) : Bool :=
  let c := Char.ofNat octet
  octet < 0x80 && (c.isAlphanum || c = '*' || c = '-' || c = '.' || c = '_')

def encodeOctet (octet : Nat) : List Char :=
  if octet = 0x20 then ['+']
  else if isPlain octet then [Char.ofNat octet]
  else percentEscape octet

def encode (text : String) : List Char :=
  (Text.Utf8.encode text.toList).flatMap encodeOctet

end RowStore.Url.Form
