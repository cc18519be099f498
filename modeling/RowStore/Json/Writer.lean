import RowStore.Value

/-!
# Values as JSON text

The compact form has no spaces. The indented form puts every item and field on a line of its own, two spaces
deeper than its container; empty containers stay on one line. Both keep the order of the fields, and escape
quotes, backslashes and control characters only.
-/

namespace RowStore.Json

set_option autoImplicit false

def hexPair (n : Nat) : List Char :=
  [Nat.digitChar (n / 16), Nat.digitChar (n % 16)]

def escaped (c : Char) : List Char :=
  if c = '"' then ['\\', '"']
  else if c = '\\' then ['\\', '\\']
  else if c = '\x08' then ['\\', 'b']
  else if c = '\x0c' then ['\\', 'f']
  else if c = '\n' then ['\\', 'n']
  else if c = '\r' then ['\\', 'r']
  else if c = '\t' then ['\\', 't']
  else if c.toNat < 0x20 then ['\\', 'u', '0', '0'] ++ hexPair c.toNat
  else [c]

def quoted (s : String) : List Char :=
  '"' :: s.toList.flatMap escaped ++ ['"']

def separated : List (List Char) → List Char
  | [] => []
  | [piece] => piece
  | piece :: more => piece ++ ',' :: separated more

mutual

/-- The compact text of a value. -/
def chars : Value → List Char
  | .null => "null".toList
  | .bool true => "true".toList
  | .bool false => "false".toList
  | .number n => n.text
  | .string s => quoted s
  | .array items => '[' :: separated (itemChars items) ++ [']']
  | .object fields => '\x7b' :: separated (fieldChars fields) ++ ['\x7d']

def itemChars : List Value → List (List Char)
  | [] => []
  | item :: rest => chars item :: itemChars rest

def fieldChars : List (String × Value) → List (List Char)
  | [] => []
  | (name, value) :: rest => (quoted name ++ ':' :: chars value) :: fieldChars rest

end

def render (value : Value) : String :=
  String.ofList (chars value)

/-- A new line, indented by two spaces per level. -/
def newline (level : Nat) : List Char :=
  '\n' :: List.replicate (2 * level) ' '

/-- Pieces on lines of their own, one level deeper than the brackets around them. -/
def block (opening closing : Char) (level : Nat) (pieces : List (List Char)) : List Char :=
  if pieces = [] then [opening, closing]
  else opening :: separated (pieces.map (newline (level + 1) ++ ·)) ++ newline level ++ [closing]

mutual

/-- The indented text of a value at a level. -/
def indentedChars (level : Nat) : Value → List Char
  | .array items => block '[' ']' level (indentedItems (level + 1) items)
  | .object fields => block '\x7b' '\x7d' level (indentedFields (level + 1) fields)
  | .null => "null".toList
  | .bool true => "true".toList
  | .bool false => "false".toList
  | .number n => n.text
  | .string s => quoted s

def indentedItems (level : Nat) : List Value → List (List Char)
  | [] => []
  | item :: rest => indentedChars level item :: indentedItems level rest

def indentedFields (level : Nat) : List (String × Value) → List (List Char)
  | [] => []
  | (name, value) :: rest =>
    (quoted name ++ ':' :: ' ' :: indentedChars level value) :: indentedFields level rest

end

def renderIndented (value : Value) : String :=
  String.ofList (indentedChars 0 value)

end RowStore.Json

namespace RowStore.Value

/-- The text a value stands for where text is asked for: a string is itself, all else is its JSON text. -/
def text : Value → String
  | string s => s
  | value => Json.render value

end RowStore.Value
