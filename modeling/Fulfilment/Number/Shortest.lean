import Fulfilment.Number.Binary64

/-!
# Shortest decimal digits

The decimal number with the fewest digits that is read back as a given number of the format
binary64, and among those with as few digits the one nearest to it. The decimal numbers read back
as `units` fill an interval around it that reaches half way to either neighbour; the ends belong
to it when the mantissa is even. For a growing number of digits, the two decimal numbers next to
the value are tested against the interval.

## Main definitions

* `Shortest.interval` - four times the ends of the interval of a number of units
* `Shortest.digits` - the shortest digits and their power of ten
-/

namespace Fulfilment.Shortest

open Binary64

/-- The decimal numbers that are read back as a number of the format, as bounds on four times
their units. -/
structure Interval where
  /-- Four times the lower end. -/
  lower : Nat
  /-- Four times the upper end. -/
  upper : Nat
  /-- Whether the ends belong to the interval. -/
  closed : Bool

/-- The interval of a positive number of units. Below a power of two the numbers of the format lie
twice as close as above it. -/
def interval (units : Nat) : Interval :=
  let gap := powerOfTwo (spacing units)
  let mantissa := units / gap
  { lower := 4 * units - (if mantissa = powerOfTwo 52 ∧ 1 < gap then gap else 2 * gap)
    upper := 4 * units + 2 * gap
    closed := mantissa % 2 = 0 }

/-- Whether `num / den` units lie in the interval. -/
def Interval.covers (i : Interval) (num den : Nat) : Bool :=
  if i.closed then i.lower * den ≤ 4 * num && 4 * num ≤ i.upper * den
  else i.lower * den < 4 * num && 4 * num < i.upper * den

/-- The largest `e` with `10 ^ e` not above a positive number of units. -/
def decimalExponent (units : Nat) : Int :=
  if unitsOfOne ≤ units then
    ((Nat.toDigits 10 (units / unitsOfOne)).length : Int) - 1
  else -((Nat.toDigits 10 ((unitsOfOne - 1) / units)).length : Int)

/-- The multiple of `10 ^ exponent` that is read back as `units` and nearest to it. Only the two
multiples next to the value can be. -/
def onGrid? (units : Nat) (exponent : Int) : Option Nat :=
  let scale := powerOfTen (-exponent).toNat
  let step := unitsOfOne * powerOfTen exponent.toNat
  let i := interval units
  let below := units * scale / step
  let rest := units * scale % step
  let low := i.covers (below * step) scale
  let high := i.covers ((below + 1) * step) scale
  -- Of two multiples that are equally near, the even one is taken.
  let highNearer := step < 2 * rest || (2 * rest == step && below % 2 == 1)
  match low, high with
  | true, true => some (if highNearer then below + 1 else below)
  | true, false => some below
  | false, true => some (below + 1)
  | false, false => none

/-- The first hit among the grids from `exponent` downwards, of which there are `more + 1`. On the
last one the nearest multiple is taken, whether it is read back or not. -/
def search (units : Nat) : Nat → Int → Nat × Int
  | 0, exponent =>
    ((onGrid? units exponent).getD (Rounding.halfEven (units * powerOfTen (-exponent).toNat)
      (unitsOfOne * powerOfTen exponent.toNat)), exponent)
  | more + 1, exponent =>
    match onGrid? units exponent with
    | some d => (d, exponent)
    | none => search units more (exponent - 1)

/-- The shortest digits of a positive number of units, and the power of ten that they count. -/
def digits (units : Nat) : Nat × Int := search units 16 (decimalExponent units)

end Fulfilment.Shortest
