import RowStore.Text.Hex
import RowStore.Text.Step

/-!
# Quoted strings

A string stands between marks, one for a single line or three for several lines. Between double marks a
backslash begins an escape; between single ones it stands for itself. A string of several lines may hold up to
two marks in a row, also right before its end.
-/

namespace RowStore.Toml

set_option autoImplicit false

/-- A character that a line may hold: a tab, or one that is no control character of ASCII. -/
def isPlain (c : Char) : Bool :=
  c = '\t' || (0x20 ≤ c.toNat && c.toNat != 0x7F)

def isGap (c : Char) : Bool :=
  c = ' ' || c = '\t'

def skipGaps (text : List Char) : List Char :=
  text.dropWhile isGap

def lineEnd? : List Char → Option (List Char)
  | '\n' :: rest => some rest
  | '\r' :: '\n' :: rest => some rest
  | _ => none

/-- The text after its spaces, tabs and line ends. -/
def skipEmptyLines : List Char → List Char
  | '\r' :: '\n' :: rest => skipEmptyLines rest
  | c :: rest => if isGap c ∨ c = '\n' then skipEmptyLines rest else c :: rest
  | [] => []

namespace Quoted

def charOfHex? (digits : List Char) : Option Char := do
  let code ← Text.Hex.number? digits
  if code.isValidChar then some (Char.ofNat code) else none

def escape? : List Char → Option (Char × List Char)
  | 'b' :: rest => some ('\x08', rest)
  | 't' :: rest => some ('\t', rest)
  | 'n' :: rest => some ('\n', rest)
  | 'f' :: rest => some ('\x0c', rest)
  | 'r' :: rest => some ('\r', rest)
  | '"' :: rest => some ('"', rest)
  | '\\' :: rest => some ('\\', rest)
  | 'u' :: rest => if rest.length < 4 then none else (charOfHex? (rest.take 4)).map (·, rest.drop 4)
  | 'U' :: rest => if rest.length < 8 then none else (charOfHex? (rest.take 8)).map (·, rest.drop 8)
  | _ => none

/-- A part of a string: some characters, or its end with the marks before it. -/
inductive Piece where
  | chars (cs : List Char)
  | close (cs : List Char)

def linePiece? (mark : Char) (text : List Char) : Option (Piece × List Char) :=
  match text with
  | [] => none
  | c :: rest =>
    if c = mark then some (.close [], rest)
    else if c = '\\' ∧ mark = '"' then (escape? rest).map fun (c, after) => (.chars [c], after)
    else if isPlain c then some (.chars [c], rest)
    else none

def blockPiece? (mark : Char) (text : List Char) : Option (Piece × List Char) :=
  match text with
  | [] => none
  | c :: rest =>
    if c = mark then
      let run := min 5 (text.takeWhile (· == mark)).length
      if run < 3 then some (.chars [mark], rest)
      else some (.close (List.replicate (run - 3) mark), text.drop run)
    else if c = '\\' ∧ mark = '"' then
      match lineEnd? (skipGaps rest) with
      | some after => some (.chars [], skipEmptyLines after)
      | none => (escape? rest).map fun (c, after) => (.chars [c], after)
    else match lineEnd? text with
      | some after => some (.chars ['\n'], after)
      | none => if isPlain c then some (.chars [c], rest) else none

/-- The characters of a string after its opening marks, and what follows its end. -/
def body? (piece? : List Char → Option (Piece × List Char)) (text : List Char) :
    Option (List Char × List Char) :=
  match Text.step? text (piece? text) with
  | none => none
  | some ⟨(.close cs, rest), _⟩ => some (cs, rest)
  | some ⟨(.chars cs, rest), _⟩ => (body? piece? rest).map fun (more, after) => (cs ++ more, after)
termination_by text.length
decreasing_by dsimp only at *; omega

def line? : List Char → Option (List Char × List Char)
  | '"' :: rest => body? (linePiece? '"') rest
  | '\'' :: rest => body? (linePiece? '\'') rest
  | _ => none

/-- A string of several lines; a line end right after the opening marks is passed over. -/
def block (mark : Char) (text : List Char) : Option (List Char × List Char) :=
  body? (blockPiece? mark) ((lineEnd? text).getD text)

def string? : List Char → Option (List Char × List Char)
  | '"' :: '"' :: '"' :: rest => block '"' rest
  | '\'' :: '\'' :: '\'' :: rest => block '\'' rest
  | text => line? text

end Quoted

end RowStore.Toml
