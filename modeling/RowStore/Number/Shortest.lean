import RowStore.Number.Binary64

/-!
# The shortest decimal that reads back

Between two neighbouring doubles lies the border of their rounding intervals. The shortest decimal of a double
is the coarsest decimal grid that has a point in its interval; of two such points the nearer one, and of two
equally near the even one. All comparisons are between whole numbers.
-/

namespace RowStore.Binary64

set_option autoImplicit false

/-- The interval of magnitudes that round to `ticks`, in quarters of a tick, and whether its ends belong to it. -/
structure Interval where
  lower : Nat
  upper : Nat
  closed : Bool

/-- The gap below a power of two is half the gap above it. -/
def interval (ticks : Nat) : Interval where
  lower := 4 * ticks - (if ticks = Nat.pow 2 ticks.log2 ∧ 1 < spacing ticks then 1 else 2) * spacing ticks
  upper := 4 * ticks + 2 * spacing ticks
  closed := ticks / spacing ticks % 2 = 0

def Interval.contains (i : Interval) (num den : Nat) : Bool :=
  if i.closed then i.lower * den ≤ num ∧ num ≤ i.upper * den
  else i.lower * den < num ∧ num < i.upper * den

def apart (a b : Nat) : Nat := (a - b) + (b - a)

/-- The multiple of `10 ^ exponent` that stands for `ticks`, if one reads back. -/
def onGrid? (ticks : Nat) (exponent : Int) : Option Nat :=
  let quarters := 4 * unit * Nat.pow 10 exponent.toNat
  let scale := Nat.pow 10 (-exponent).toNat
  let below := 4 * ticks * scale / quarters
  let fits (c : Nat) : Bool := (interval ticks).contains (c * quarters) scale
  let distance (c : Nat) : Nat := apart (c * quarters) (4 * ticks * scale)
  match fits below, fits (below + 1) with
  | true, true =>
    if distance below < distance (below + 1) then some below
    else if distance (below + 1) < distance below then some (below + 1)
    else some (if below % 2 = 0 then below else below + 1)
  | true, false => some below
  | false, true => some (below + 1)
  | false, false => none

/-- No double is below `10 ^ -340`. -/
def floorExponent : Nat := 340

/-- The exponent of the leading decimal digit of a positive magnitude. -/
def leadingExponent (ticks : Nat) : Int :=
  (decimalLength (ticks * Nat.pow 10 floorExponent / unit) : Int) - 1 - floorExponent

/-- The shortest decimal `coefficient * 10 ^ exponent` of a positive magnitude; seventeen digits are enough. -/
def shortest (ticks : Nat) : Nat × Int :=
  let top := leadingExponent ticks
  ((List.range 17).findSome? fun (i : Nat) => (onGrid? ticks (top - i)).map (·, top - i)).getD (0, 0)

end RowStore.Binary64
