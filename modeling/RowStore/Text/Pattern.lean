import RowStore.Text.Fold

/-!
# Wildcard patterns

In a pattern a percent sign stands for any run of characters, an underscore for any one, and every other
character for itself in either case. The whole text has to be used up.

The test works from the end of the pattern. For the part already read it keeps, for every ending of the text
from the whole of it to the empty one, whether that part matches the ending.
-/

namespace RowStore.Text.Pattern

set_option autoImplicit false

/-- The empty pattern matches the empty ending only. -/
def endRow (text : List Char) : List Bool :=
  text.map (fun _ => false) ++ [true]

/-- A run may take any number of characters: an ending matches if a shorter one does. -/
def runRow : List Bool → List Bool
  | [] => []
  | fits :: rest =>
    let shorter := runRow rest
    (fits || shorter.head?.getD false) :: shorter

/-- One character is taken if it passes the test and what follows it matches; the empty ending has none. -/
def charRow (test : Char → Bool) : List Char → List Bool → List Bool
  | c :: text, _ :: rest => (test c && rest.head?.getD false) :: charRow test text rest
  | _, _ => [false]

/-- The row after one more character of the pattern; the text is folded already. -/
def extendRow (text : List Char) (p : Char) (row : List Bool) : List Bool :=
  if p = '%' then runRow row
  else if p = '_' then charRow (fun _ => true) text row
  else charRow (fun c => c == fold p) text row

def fits (text pattern : String) : Bool :=
  let folded := text.toList.map fold
  (pattern.toList.foldr (extendRow folded) (endRow folded)).head?.getD false

end RowStore.Text.Pattern
