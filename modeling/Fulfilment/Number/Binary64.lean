import Fulfilment.Number.Power
import Fulfilment.Number.Rounding

/-!
# Binary floating point numbers

The numbers of the IEEE 754 format binary64. Every finite number of the format is a whole multiple
of the smallest positive one, `2 ^ -1074`, so a finite number is given by its sign and by that
multiple, its *units*. Comparison and equality are then those of integers, and each arithmetic
operation computes an exact quotient of units and rounds it once, to the nearest number of the
format and to an even mantissa in the middle.

## Main definitions

* `Binary64` - the numbers of the format
* `Binary64.roundUnits` - the units of the number nearest to a quotient of units
* `Binary64.ofRatio`, `Binary64.ofScientific`, `Binary64.ofInt?` - the nearest number
* `Binary64.lt`, `Binary64.eq`, `Binary64.eqInt` - exact comparison

## Main results

* `Binary64.lt_nan`, `Binary64.nan_lt` - not a number is neither below nor above anything
-/

namespace Fulfilment

/-- A number of the format binary64. The two zeros differ by their sign. -/
inductive Binary64 where
  /-- Not a number. -/
  | nan
  /-- One of the two infinities. -/
  | infinite (negative : Bool)
  /-- The number `units * 2 ^ -1074`, or its negative. -/
  | finite (negative : Bool) (units : Nat)
deriving DecidableEq, Repr, Inhabited

namespace Binary64

open Rounding

/-- The units of the number one. -/
def unitsOfOne : Nat := powerOfTwo 1074

/-- The units that no finite number of the format reaches. -/
def unitsLimit : Nat := powerOfTwo 2098

/-- The positive zero. -/
def zero : Binary64 := .finite false 0

/-- The logarithm of the distance between neighbouring numbers of the format around `units`. -/
def spacing (units : Nat) : Nat := if units < powerOfTwo 53 then 0 else units.log2 - 52

/-- The units of the number of the format nearest to `num / den` units, without an upper limit. -/
def roundUnits (num den : Nat) : Nat :=
  let gap := powerOfTwo (spacing (num / den))
  halfEven num (den * gap) * gap

/-- The number nearest to `num / den` units, with the given sign. -/
def ofUnits (negative : Bool) (num den : Nat) : Binary64 :=
  let units := roundUnits num den
  if units < unitsLimit then .finite negative units else .infinite negative

/-- The number nearest to the quotient `num / den`, with the given sign. -/
def ofRatio (negative : Bool) (num den : Nat) : Binary64 :=
  ofUnits negative (num * unitsOfOne) den

/-- The number nearest to an integer. -/
def ofInt (n : Int) : Binary64 := ofRatio (n < 0) n.natAbs 1

/-- The number itself, if it is finite. -/
def finite? : Binary64 → Option Binary64
  | .finite s u => some (.finite s u)
  | _ => none

/-- The number nearest to an integer, if it is finite. -/
def ofInt? (n : Int) : Option Binary64 := (ofInt n).finite?

/-- The number nearest to `digits * 10 ^ exponent`, with the given sign. Powers of ten far outside
the range of the format are not computed. -/
def ofScientific (negative : Bool) (digits : Nat) (exponent : Int) : Binary64 :=
  let magnitude := exponent + (Nat.toDigits 10 digits).length
  -- Beyond these magnitudes the result is zero or infinite, whatever the digits are.
  if digits = 0 ∨ magnitude < -400 then .finite negative 0
  else if 400 < magnitude then .infinite negative
  else if 0 ≤ exponent then ofRatio negative (digits * powerOfTen exponent.toNat) 1
  else ofRatio negative digits (powerOfTen (-exponent).toNat)

/-- A number of units with a sign. -/
def signed (negative : Bool) (units : Nat) : Int := if negative then -units else units

/-- Orders the numbers of the format: the units with their sign, and for the infinities a value
beyond all finite ones. Not a number has no place in the order. -/
def place? : Binary64 → Option Int
  | .nan => none
  | .infinite s => some (signed s unitsLimit)
  | .finite s u => some (signed s u)

/-- Whether `x` is less than `y`. -/
def lt (x y : Binary64) : Bool :=
  match x.place?, y.place? with
  | some a, some b => a < b
  | _, _ => false

/-- Whether `x` is at most `y`. -/
def le (x y : Binary64) : Bool :=
  match x.place?, y.place? with
  | some a, some b => a ≤ b
  | _, _ => false

/-- Whether `x` and `y` are the same number. The two zeros are, and not a number is not. -/
def eq (x y : Binary64) : Bool :=
  match x.place?, y.place? with
  | some a, some b => a = b
  | _, _ => false

/-- Whether `x` is exactly the integer `n`. -/
def eqInt (x : Binary64) (n : Int) : Bool :=
  match x with
  | .finite s u => signed s u = n * unitsOfOne
  | _ => false

/-- Whether `x` is exactly less than the integer `n`. -/
def ltInt (x : Binary64) (n : Int) : Bool :=
  match x with
  | .nan => false
  | .infinite s => s
  | .finite s u => signed s u < n * unitsOfOne

/-- Whether the integer `n` is exactly less than `x`. -/
def intLt (n : Int) (x : Binary64) : Bool :=
  match x with
  | .nan => false
  | .infinite s => !s
  | .finite s u => n * unitsOfOne < signed s u

instance : LT Binary64 := ⟨fun x y => lt x y = true⟩

instance : LE Binary64 := ⟨fun x y => le x y = true⟩

instance : DecidableLT Binary64 := fun x y => inferInstanceAs (Decidable (lt x y = true))

instance : DecidableLE Binary64 := fun x y => inferInstanceAs (Decidable (le x y = true))

/-- Whether the number is zero, of either sign. -/
def isZero : Binary64 → Bool
  | .finite _ u => u = 0
  | _ => false

/-- The integer that the number is, if it is one. -/
def toInt? : Binary64 → Option Int
  | .finite s u =>
    if u % unitsOfOne = 0 then some (signed s (u / unitsOfOne)) else none
  | _ => none

/-- The largest integer that is not above the number, if it is finite. -/
def floor? : Binary64 → Option Int
  | .finite s u => some (signed s u / unitsOfOne)
  | _ => none

/-- The number without its sign. -/
def abs : Binary64 → Binary64
  | .nan => .nan
  | .infinite _ => .infinite false
  | .finite _ u => .finite false u

/-- The product, rounded. -/
def mul : Binary64 → Binary64 → Binary64
  | .nan, _ | _, .nan => .nan
  | .infinite s, .infinite t => .infinite (s != t)
  | .infinite s, .finite t u | .finite t u, .infinite s =>
    if u = 0 then .nan else .infinite (s != t)
  | .finite s u, .finite t v => ofUnits (s != t) (u * v) unitsOfOne

/-- The quotient by a positive integer, rounded. -/
def divNat (x : Binary64) (n : Nat) : Binary64 :=
  match x with
  | .finite s u => ofUnits s u n
  | x => x

/-- The sum, rounded. An exact zero is positive unless both numbers are negative. -/
def add : Binary64 → Binary64 → Binary64
  | .nan, _ | _, .nan => .nan
  | .infinite s, .infinite t => if s = t then .infinite s else .nan
  | .infinite s, .finite _ _ | .finite _ _, .infinite s => .infinite s
  | .finite s u, .finite t v =>
    let sum := signed s u + signed t v
    ofUnits (if sum = 0 then s && t else sum < 0) sum.natAbs 1

instance : Add Binary64 := ⟨add⟩

/-- The number with the other sign. -/
def negate : Binary64 → Binary64
  | .nan => .nan
  | .infinite s => .infinite (!s)
  | .finite s u => .finite (!s) u

/-- The difference, rounded. -/
def sub (x y : Binary64) : Binary64 := add x y.negate

/-- The number, or zero when it is negative or not a number. -/
def clampToZero (x : Binary64) : Binary64 := if zero < x then x else zero

@[simp] theorem nan_lt (x : Binary64) : lt .nan x = false := rfl

@[simp] theorem lt_nan (x : Binary64) : lt x .nan = false := by
  cases x <;> rfl

@[simp] theorem eq_nan (x : Binary64) : eq x .nan = false := by
  cases x <;> rfl

end Binary64

end Fulfilment
