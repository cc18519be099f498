import RowStore.Text.Normal
import RowStore.Url.Domain.Direction

/-!
# Joiners

Two characters without a shape say whether their neighbours are joined. They may follow a sign that silences a
vowel; the one that keeps letters apart may also stand between letters that would join.
-/

namespace RowStore.Url.Domain

set_option autoImplicit false

def dualJoining : Text.Runs := .ofLines dualJoiningLines

def leftJoining : Text.Runs := .ofLines leftJoiningLines

def rightJoining : Text.Runs := .ofLines rightJoiningLines

def nonJoiner : Char := '\u200c'

def joiner : Char := '\u200d'

/-- Whether letters join over a character. -/
def isTransparent (c : Char) : Bool :=
  nonspacing.holds c || c.toNat = 0x1E94B

/-- Whether the first letter of a text, over the marks in front of it, is of some kind. -/
def meets (kind : Char → Bool) (text : List Char) : Bool :=
  (text.dropWhile isTransparent).head?.any kind

/-- The class of the signs that silence a vowel. -/
def silencerClass : Nat := 9

/-- Whether a joiner may stand after a text, given in reverse, and before another one. -/
def joinerFits (c : Char) (before after : List Char) : Bool :=
  before.head?.any (fun p => Text.Normal.markClass p = silencerClass) ||
    (c = nonJoiner && !before.isEmpty
      && meets (fun p => dualJoining.holds p || leftJoining.holds p) before
      && meets (fun n => dualJoining.holds n || rightJoining.holds n) after)

/-- Whether all joiners of a text may stand where they are, after what was before, given in reverse. -/
def joinersFit (before : List Char) : List Char → Bool
  | [] => true
  | c :: rest =>
    ((c != nonJoiner && c != joiner) || joinerFits c before rest) && joinersFit (c :: before) rest

end RowStore.Url.Domain
