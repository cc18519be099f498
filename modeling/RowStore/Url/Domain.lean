import RowStore.Url.Domain.Joiner
import RowStore.Url.Domain.Mapping
import RowStore.Url.Domain.Punycode

/-!
# International names

The name of a host is a row of labels with points between them. Labels of other characters than ASCII are written
in ASCII after a mark. A name is brought into its one spelling and checked: no label starts with a mark, joiners
stand where they may, directions do not mix, a label that is written in ASCII already stands for one that could
be, and some characters of ASCII are never used.
-/

namespace RowStore.Url.Domain

set_option autoImplicit false

def spacing : Text.Runs := .ofLines spacingLines

/-- What an international label in ASCII starts with. -/
def codedMark : List Char := ['x', 'n', '-', '-']

/-- The greatest length of a label that is written in ASCII. -/
def longestLabel : Nat := 1000

/-- The greatest length of the ASCII form of a label, after its mark, that is read. -/
def longestCode : Nat := 2000

/-- Characters of ASCII that are never used in a name. -/
def isForbidden (c : Char) : Bool :=
  c.toNat ≤ 0x20 || c = '\x7f' || "%#/:<>?@[\\]^|".toList.contains c

def isMark (c : Char) : Bool :=
  nonspacing.holds c || spacing.holds c

/-- Whether a label that is not ASCII may stand in a name. -/
def isSound (label : List Char) : Bool :=
  !label.head?.any isMark && joinersFit [] label

/-- The label that stands behind its form in ASCII, if that is how it would be written. -/
def uncoded? (code : List Char) : Option (List Char) := do
  if code = [] ∨ code.getLast? = some '-' ∨ longestCode < code.length then none
  let label ← Punycode.decode? code
  if Text.Normal.normal label = label ∧ label.all isKept ∧ isSound label then some label else none

def shown? (label : List Char) : Option (List Char) :=
  if codedMark.isPrefixOf label then uncoded? (label.drop codedMark.length)
  else if Text.Normal.isAscii label ∨ label.length ≤ longestLabel ∧ isSound label then some label
  else none

def written (label : List Char) : List Char :=
  if Text.Normal.isAscii label then label else codedMark ++ Punycode.encode label

def ofText? (text : List Char) : Option (List Char) := do
  let mapped ← text.mapM mapChar?
  let labels ← (Text.splitOn '.' (Text.Normal.normal mapped.flatten)).mapM shown?
  if labels.any (·.any isForbidden) ∨ !directionsFit labels then none
  else some (Text.join '.' (labels.map written))

end RowStore.Url.Domain
