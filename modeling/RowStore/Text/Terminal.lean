import RowStore.Text.Literal

/-!
# Text for a terminal

A terminal takes some control characters for commands: the bell, the backspace, the form feed, the escape, the
delete and the upper controls. In a message they are written by their codes; line ends, tabs and the remaining
controls stay as they are.
-/

namespace RowStore.Text

set_option autoImplicit false

/-- The lower control characters that a terminal takes for commands. -/
def isLowerCommand (c : Char) : Bool :=
  c = '\x07' || c = '\x08' || c = '\x0c' || c = '\x1b' || c = '\x7f'

def isUpperCommand (c : Char) : Bool :=
  0x80 ≤ c.toNat && c.toNat ≤ 0x9F

def terminalChar (c : Char) : List Char :=
  if isLowerCommand c then ['\\', 'x', Nat.digitChar (c.toNat / 16), Nat.digitChar (c.toNat % 16)]
  else if isUpperCommand c then codeEscape c
  else [c]

def terminal (text : String) : String :=
  String.ofList (text.toList.flatMap terminalChar)

end RowStore.Text
