import Fulfilment.Number.Extended
import Fulfilment.Number.Numeral

/-!
# Figures in tables

How tables write and read binary numbers. Both are done in extended numbers, and neither is exact:
of the digits of a text only the first nineteen or so are looked at, and the fifteen digits of a
written number may be one less at the end than they should be.

## Main definitions

* `Figure.text` - a number in fifteen digits
* `Figure.read` - the number that some digits and a power of ten write
-/

namespace Fulfilment.Figure

/-! ### Writing -/

/-- The units of a power of ten as a number of the format binary64. -/
def unitsOfTenTo (exponent : Int) : Nat :=
  match Binary64.ofScientific false 1 exponent with
  | .finite _ u => u
  | _ => 0

/-- A power of ten as a number of the format binary64. -/
def tenTo (exponent : Int) : Extended := .ofUnits (unitsOfTenTo exponent)

/-- A power of ten that is scaled up by steps as long as it does not exceed the number, at most so
many times. -/
def climb (x : Extended) (size : Int) : Nat → Extended × Int → Extended × Int
  | 0, reached => reached
  | n + 1, (scale, power) =>
    let next := (tenTo size).mul scale
    if next.le x then climb x size n (next, power + size) else (scale, power)

/-- A number that is scaled up by steps as long as it is below the limit, at most so many times. The
power of ten falls by as much. -/
def lift (limit : Extended) (size : Int) : Nat → Extended × Int → Extended × Int
  | 0, reached => reached
  | n + 1, (x, power) =>
    if limit.le x then (x, power) else lift limit size n (x.mul (tenTo size), power - size)

/-- What is added to a number between one and ten so that its digits after the fifteenth can be left
away: five units of the sixteenth digit, as a product of numbers of the format binary64. -/
def margin : Extended :=
  match (Binary64.ofScientific false 5 (-5)).mul (Binary64.ofScientific false 1 (-10)) with
  | .finite _ u => .ofUnits u
  | _ => .ofNat 0

/-- The digits of a number below ten, the first of them before the point. -/
def digitsOf : Nat → Extended → List Nat
  | 0, _ => []
  | n + 1, x =>
    let (digit, rest) := x.parts
    digit :: digitsOf n (rest.mul (.ofNat 10))

/-- The fifteen digits of a positive number of units, and the power of ten of the first of them. -/
def fifteenDigits (units : Nat) : List Nat × Int :=
  let x := Extended.ofUnits units
  let (scale, power) := climb x 1 10 (climb x 10 10 (climb x 100 4 (.ofNat 1, 0)))
  let (x, power) := lift (.ofNat 1) 1 8 (lift (tenTo (-8)) 8 42 (x.div scale, power))
  let x := x.add margin
  if (Extended.ofNat 10).le x then (digitsOf 15 (x.mul (tenTo (-1))), power + 1)
  else (digitsOf 15 x, power)

/-- The digits of a number of units, positional from `10 ^ -4` up to `10 ^ 15`. -/
def unitsText (units : Nat) : List Char :=
  let (digits, power) := fifteenDigits units
  let ds := (Binary64.dropZeros (Text.ofDigits digits)).1
  if -5 < power ∧ power < 15 then Binary64.positional ds (power + 1)
  else Binary64.scientific (ds ++ (if ds.length = 1 then ['0'] else [])) power

/-- A number in fifteen digits. What is not a number cannot be written. -/
def text : Binary64 → Option String
  | .nan => none
  | .infinite s => some (if s then "-Inf" else "Inf")
  | .finite s u =>
    if u = 0 then some "0.0"
    else some (String.ofList (if s then '-' :: unitsText u else unitsText u))

/-! ### Reading -/

/-- The number from which on no more digits are taken in. -/
def enough : Nat := 922337203685477579

/-- The first digits of a number, as far as they are looked at, and how many are left away. -/
def leading (n : Nat) : Nat × Nat :=
  (Nat.toDigits 10 n).foldl (fun (taken, left) c =>
    if taken < enough then (10 * taken + (c.toNat - 48), left) else (taken, left + 1)) (0, 0)

/-- A number with a positive power of ten, some of which is multiplied into the number, as long as
it stays small enough. -/
def absorb : Nat → Nat → Nat × Nat
  | n, 0 => (n, 0)
  | n, e + 1 => if n ≤ enough then absorb (10 * n) e else (n, e + 1)

/-- A number to be divided by a power of ten, some of which is divided out of the number, as long as
nothing is left over. -/
def cancel : Nat → Nat → Nat × Nat
  | n, 0 => (n, 0)
  | n, e + 1 => if n % 10 = 0 then cancel (n / 10) e else (n, e + 1)

/-- A positive number multiplied by a power of ten. One far outside of the format is reached in two
steps. -/
def multiplied (negative : Bool) (n e : Nat) : Binary64 :=
  if e < 308 then ((Extended.ofNat n).mul (.tenTo e)).binary64 negative
  else if e < 342 then
    (((Extended.ofNat n).mul (.tenTo (e - 308))).binary64 negative).mul
      (.finite false (unitsOfTenTo 308))
  else .infinite negative

/-- A positive number divided by a power of ten. One far outside of the format is reached in two
steps. -/
def divided (negative : Bool) (n e : Nat) : Binary64 :=
  if e < 308 then ((Extended.ofNat n).div (.tenTo e)).binary64 negative
  else if e < 342 then
    (((Extended.ofNat n).div (.tenTo (e - 308))).binary64 negative).divNat
      (unitsOfTenTo 308 / Binary64.unitsOfOne)
  else .finite negative 0

/-- The number that some digits and a power of ten write, as nearly as tables read it. -/
def read (negative : Bool) (digits : Nat) (exponent : Int) : Binary64 :=
  let (n, left) := leading digits
  let exponent := exponent + left
  if n = 0 then .finite negative 0
  else if 0 ≤ exponent then
    match absorb n exponent.toNat with
    | (n, 0) => .ofRatio negative n 1
    | (n, e) => multiplied negative n e
  else
    match cancel n (-exponent).toNat with
    | (n, 0) => .ofRatio negative n 1
    | (n, e) => divided negative n e

end Fulfilment.Figure
