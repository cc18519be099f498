import RowStore.Url.Domain.MappingData

/-!
# Characters of names

Before a name is looked at, each of its characters is brought into the one spelling that names have: capital
letters become small, forms for layout become plain, characters without a shape are left out, and some characters
are refused.
-/

namespace RowStore.Url.Domain

set_option autoImplicit false

def mappings : Text.Runs := .ofLines mappingLines

def ignored : Text.Runs := .ofLines ignoredLines

def disallowed : Text.Runs := .ofLines disallowedLines

def replacement (run : Text.Run) (c : Char) : List Char :=
  match run.values with
  | [code] => [Char.ofNat (code + (c.toNat - run.first))]
  | codes => codes.map Char.ofNat

/-- How a character is written in a name, if it may be used. -/
def mapChar? (c : Char) : Option (List Char) :=
  if c.toNat < 0x80 then some [c.toLower]
  else if disallowed.holds c then none
  else if ignored.holds c then some []
  else match mappings.run? c with
    | some run => some (replacement run c)
    | none => some [c]

def isKept (c : Char) : Bool :=
  mapChar? c = some [c]

end RowStore.Url.Domain
