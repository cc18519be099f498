/-!
# Finite doubles

A finite double is a whole multiple of `2 ^ -1074`, the least positive one, so it is kept as a sign and a
count of these ticks. Order and equality are then those of integers, and every operation is an exact one
followed by a rounding. Infinities and NaN have no place here: an operation that overflows has no result.
-/

namespace RowStore

set_option autoImplicit false

/-- A finite double, `± ticks / 2 ^ 1074`. Zero has two signs. -/
structure Binary64 where
  negative : Bool
  ticks : Nat
deriving DecidableEq, Repr, Inhabited

namespace Binary64

/-- The number of ticks in one. -/
def unit : Nat := Nat.pow 2 1074

/-- The least number of ticks out of range: a magnitude of `2 ^ 1024`. -/
def bound : Nat := Nat.pow 2 2098

/-- The distance between neighbouring doubles around a magnitude of `n` ticks: 53 bits are kept. -/
def spacing (n : Nat) : Nat := Nat.pow 2 (n.log2 - 52)

/-- The multiple of `step` nearest to `num / den`; of two equally near, the even multiple. -/
def roundTo (step num den : Nat) : Nat :=
  let cell := den * step
  let quotient := num / cell
  let rest := num % cell
  if 2 * rest < cell ∨ (2 * rest = cell ∧ quotient % 2 = 0) then quotient * step
  else (quotient + 1) * step

/-- The magnitude nearest to `num / den` ticks. -/
def round (num den : Nat) : Nat :=
  roundTo (spacing (num / den)) num den

/-- The double nearest to `num / den` ticks, if it is in range. -/
def ofTicks? (negative : Bool) (num den : Nat) : Option Binary64 :=
  let ticks := round num den
  if ticks < bound then some ⟨negative, ticks⟩ else none

def ofInt (n : Int) : Binary64 :=
  ⟨n < 0, round (n.natAbs * unit) 1⟩

def zero : Binary64 := ⟨false, 0⟩
def one : Binary64 := ⟨false, unit⟩

/-- The signed count of ticks: what order and equality look at. -/
def signedTicks (x : Binary64) : Int :=
  if x.negative then -(x.ticks : Int) else x.ticks

/-- Order by value; the two zeros are equal. -/
def order (x y : Binary64) : Ordering :=
  compare x.signedTicks y.signedTicks

def same (x y : Binary64) : Bool :=
  x.signedTicks == y.signedTicks

/-- The integer part, toward zero. -/
def truncate (x : Binary64) : Int :=
  x.signedTicks.tdiv unit

def mul? (x y : Binary64) : Option Binary64 :=
  ofTicks? (x.negative != y.negative) (x.ticks * y.ticks) unit

def div? (x y : Binary64) : Option Binary64 :=
  ofTicks? (x.negative != y.negative) (x.ticks * unit) y.ticks

def neg (x : Binary64) : Binary64 :=
  ⟨!x.negative, x.ticks⟩

/-- The number of decimal digits of `n`; zero has one. -/
def decimalLength (n : Nat) : Nat :=
  (Nat.toDigits 10 n).length

/-- The double nearest to `± coefficient * 10 ^ exponent`, if it is in range. Magnitudes of `10 ^ 310` and
more are out of range, and those below `10 ^ -330` round to zero, whatever their digits. -/
def ofDecimal? (negative : Bool) (coefficient : Nat) (exponent : Int) : Option Binary64 :=
  let top := decimalLength coefficient + exponent
  if coefficient = 0 ∨ top < -330 then some ⟨negative, 0⟩
  else if top > 310 then none
  else if exponent < 0 then ofTicks? negative (coefficient * unit) (Nat.pow 10 exponent.natAbs)
  else ofTicks? negative (coefficient * Nat.pow 10 exponent.natAbs * unit) 1

/-- The largest power of ten, as an exponent, that a single scaling step uses. -/
def scaleStep : Nat := 308

/-- `x * 10 ^ exponent` by steps: down by `10 ^ 308` as long as the exponent asks for more, then once by the
power that remains, each step rounded. -/
def scale? (x : Binary64) (exponent : Int) : Option Binary64 :=
  match exponent with
  | .ofNat e =>
    if e ≤ scaleStep then do x.mul? (← ofDecimal? false 1 e)
    else if x.ticks = 0 then some x
    else none
  | .negSucc e => down x e
where
  /-- `x / 10 ^ (e + 1)`. -/
  down (x : Binary64) (e : Nat) : Option Binary64 :=
    if e < scaleStep then do x.div? (← ofDecimal? false 1 (e + 1))
    else if x.ticks = 0 then some x
    else do
      let y ← x.div? (← ofDecimal? false 1 scaleStep)
      down y (e - scaleStep)
  termination_by e
  decreasing_by simp only [scaleStep] at *; omega

end Binary64

end RowStore
