import RowStore.Json.Writer
import RowStore.Text.Blank

/-!
# Order and equality of values

Numbers, booleans and texts that spell a finite number have a numeric reading, and compare by it. Null comes
before all of them, and whatever has no numeric reading after them, by its text. Equality is by numeric reading
if both sides have one, else by text.
-/

namespace RowStore.Value

set_option autoImplicit false

/-- The number that a value stands for. Blanks around the text of a number do not matter. -/
def numeric? : Value → Option Binary64
  | number n => some n.toBinary64
  | bool true => some .one
  | bool false => some .zero
  | string s => Binary64.ofText? (Text.trim s.toList)
  | null | array _ | object _ => none

/-- Equality of two cells that are not null. -/
def same (a b : Value) : Bool :=
  match a.numeric?, b.numeric? with
  | some x, some y => x.same y
  | _, _ => a.text == b.text

def orderText (s t : String) : Ordering :=
  compare s t

/-- Numbers by value, before everything that is none; the rest by text. -/
def orderPresent (a b : Value) : Ordering :=
  match a.numeric?, b.numeric? with
  | some x, some y => x.order y
  | some _, none => .lt
  | none, some _ => .gt
  | none, none => orderText a.text b.text

/-- The order of comparisons and of sorting: null first. -/
def order (a b : Value) : Ordering :=
  match a.isNull, b.isNull with
  | true, true => .eq
  | true, false => .lt
  | false, true => .gt
  | false, false => orderPresent a b

end RowStore.Value
