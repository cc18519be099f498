import RowStore.Url.Domain.ClassData

/-!
# Directions of labels

In a name with a letter or a digit that is written from right to left, every label has to go in one direction:
it starts with a letter of the direction, ends with a letter of it or a digit, and holds no letter of the other
one. A label from right to left has digits of one kind only. Marks at the end are not looked at.
-/

namespace RowStore.Url.Domain

set_option autoImplicit false

def nonspacing : Text.Runs := .ofLines nonspacingLines

def rightward : Text.Runs := .ofLines rightLines

def european : Text.Runs := .ofLines europeanLines

def arabic : Text.Runs := .ofLines arabicLines

def neutral : Text.Runs := .ofLines neutralLines

/-- Marks that count as letters from left to right. -/
def leftMarks : List Nat := [0xCBF, 0xCC6, 0x11A07, 0x11A08, 0x11C3F]

inductive Direction where
  | left
  | right
  | european
  | arabic
  | neutral
  | mark
deriving DecidableEq, Repr

namespace Direction

def ofChar (c : Char) : Direction :=
  if c.toNat < 0x80 then
    if c.isAlpha then .left else if c.isDigit then .european else .neutral
  else if rightward.holds c then .right
  else if Domain.european.holds c then .european
  else if Domain.arabic.holds c then .arabic
  else if Domain.neutral.holds c then .neutral
  else if nonspacing.holds c ∧ c.toNat ∉ leftMarks then .mark
  else .left

/-- Whether a direction makes a name one that goes from right to left. -/
def turns (direction : Direction) : Bool :=
  direction = right || direction = arabic

/-- Whether the directions of a label's characters go together. -/
def fit : List Direction → Bool
  | [] => true
  | first :: rest =>
    let body := (rest.reverse.dropWhile (· = mark)).reverse
    let last := body.getLast?.getD first
    match first with
    | left => body.all (fun d => d != right && d != arabic) && (last = left || last = european)
    | right => body.all (· != left) && (last = right || last = european || last = arabic)
        && !(body.contains european && body.contains arabic)
    | _ => false

end Direction

/-- Whether labels go in one direction each, where that is asked for. -/
def directionsFit (labels : List (List Char)) : Bool :=
  let directions := labels.map fun label => label.map Direction.ofChar
  !(directions.any fun label => label.any Direction.turns) || directions.all Direction.fit

end RowStore.Url.Domain
