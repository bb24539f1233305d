import Fulfilment.Number.Power
import Fulfilment.Number.Rounding
import Fulfilment.Text.Basic

/-!
# Decimal arithmetic

Decimal numbers keep the digits they are written with: `1.50` and `1.5` are the same number in two
forms. Arithmetic follows the General Decimal Arithmetic specification with 28 significant digits,
rounding to the even neighbour in the middle, and adjusted exponents between `-999999` and
`999999`. An operation without a result raises a `Signal`.

## Main definitions

* `Decimal` - the decimal numbers, with the two infinities and not a number
* `Decimal.settle` - fits an exact result into the digits and exponents of the arithmetic
* `Decimal.add?`, `Decimal.sub?`, `Decimal.mul?`, `Decimal.abs?` - the operations
* `Decimal.compare?` - the order, undefined on not a number

## Main results

* `Decimal.settle_of_fits` - a result of at most 28 digits within the exponents is kept as it is
-/

namespace Fulfilment

/-- A decimal number in the form it is written. -/
inductive Decimal where
  /-- The number `coefficient * 10 ^ exponent`, or its negative. -/
  | finite (negative : Bool) (coefficient : Nat) (exponent : Int)
  /-- One of the two infinities. -/
  | infinite (negative : Bool)
  /-- Not a number, with diagnostic digits. A signaling one is refused by every operation. -/
  | nan (negative signaling : Bool) (payload : Nat)
deriving DecidableEq, Repr, Inhabited

namespace Decimal

/-- Why there is no decimal number to answer. -/
inductive Signal where
  /-- The text does not write a decimal number. -/
  | conversionSyntax
  /-- The operation is not defined on its operands. -/
  | invalidOperation
  /-- The result is beyond the largest exponent. -/
  | overflow
deriving DecidableEq, Repr

/-- The number of digits that a result keeps. -/
def precision : Nat := 28

/-- The largest exponent that the first digit of a result may have. -/
def maxExponent : Int := 999999

/-- The smallest exponent that the last digit of a result may have. -/
def leastExponent : Int := -1000026

/-- The number zero. -/
def zero : Decimal := .finite false 0 0

/-- An integer as a decimal number. -/
def ofInt (n : Int) : Decimal := .finite (n < 0) n.natAbs 0

/-- The coefficient without its last `n` digits, rounded. -/
def dropDigits (coefficient n : Nat) : Nat :=
  if Text.digitCount coefficient < n then 0 else Rounding.halfEven coefficient (powerOfTen n)

/-- The exact result `coefficient * 10 ^ exponent` in the digits and exponents of the arithmetic.
When the digits that are dropped round a row of nines up to a power of ten, one more digit is
dropped. -/
def settle (negative : Bool) (coefficient : Nat) (exponent : Int) : Except Signal Decimal :=
  if coefficient = 0 then
    .ok (.finite negative 0 (max leastExponent (min maxExponent exponent)))
  else
    -- The exponent of the last digit that is kept.
    let last := max leastExponent (Text.digitCount coefficient + exponent - precision)
    let (c, e) :=
      if exponent < last then
        let rounded := dropDigits coefficient (last - exponent).toNat
        if rounded = powerOfTen precision then (powerOfTen (precision - 1), last + 1)
        else (rounded, last)
      else (coefficient, exponent)
    if maxExponent < Text.digitCount c + e - 1 then .error .overflow
    else .ok (.finite negative c e)

/-- The quiet form of the first operand that is not a number; a signaling one is refused. -/
def nanOf (x y : Decimal) : Except Signal Decimal :=
  match x, y with
  -- A signaling operand counts before a quiet one, wherever it stands.
  | .nan _ true _, _ | _, .nan _ true _ => .error .invalidOperation
  | .nan s false p, _ | _, .nan s false p => .ok (.nan s false (p % powerOfTen precision))
  | _, _ => .error .invalidOperation

/-- The product. -/
def mul? : Decimal → Decimal → Except Signal Decimal
  | .finite s c e, .finite t d f => settle (s != t) (c * d) (e + f)
  | .infinite s, .infinite t => .ok (.infinite (s != t))
  | .infinite s, .finite t c _ | .finite t c _, .infinite s =>
    if c = 0 then .error .invalidOperation else .ok (.infinite (s != t))
  | x, y => nanOf x y

/-- A coefficient with a sign. -/
def signed (negative : Bool) (coefficient : Nat) : Int :=
  if negative then -coefficient else coefficient

/-- The sum of two finite numbers, of which the first has the larger exponent. A second number that
lies entirely below the digits of the result is replaced by the least one that rounds alike, so
that no more digits are aligned than the operands have. -/
def addAligned (s : Bool) (c : Nat) (e : Int) (t : Bool) (d : Nat) (f : Int) :
    Except Signal Decimal :=
  let far := c ≠ 0 ∧ Text.digitCount d + f ≤ e - 30
  let d := if far then min d 1 else d
  let f := if far then max f (e - 31) else f
  let shifted := if c = 0 then 0 else c * powerOfTen (e - f).toNat
  let sum := signed s shifted + signed t d
  settle (if sum = 0 then s && t else sum < 0) sum.natAbs f

/-- The sum. -/
def add? : Decimal → Decimal → Except Signal Decimal
  | .finite s c e, .finite t d f =>
    if f ≤ e then addAligned s c e t d f else addAligned t d f s c e
  | .infinite s, .infinite t => if s = t then .ok (.infinite s) else .error .invalidOperation
  | .infinite s, .finite _ _ _ | .finite _ _ _, .infinite s => .ok (.infinite s)
  | x, y => nanOf x y

/-- The number with the opposite sign, in all its digits. -/
def negate : Decimal → Decimal
  | .finite s c e => .finite (!s) c e
  | .infinite s => .infinite (!s)
  | .nan s g p => .nan s g p

/-- The difference. -/
def sub? (x y : Decimal) : Except Signal Decimal := add? x (negate y)

/-- The absolute value. -/
def abs? : Decimal → Except Signal Decimal
  | .finite _ c e => settle false c e
  | .infinite _ => .ok (.infinite false)
  | x => nanOf x x

/-- The order of two coefficients with their exponents. -/
def compareMagnitude (c : Nat) (e : Int) (d : Nat) (f : Int) : Ordering :=
  if c = 0 ∨ d = 0 then compare c d
  else
    -- Numbers whose first digits stand in different places are told apart without aligning them.
    let p := Text.digitCount c + e
    let q := Text.digitCount d + f
    if p ≠ q then compare p q
    else if e ≤ f then compare c (d * powerOfTen (f - e).toNat)
    else compare (c * powerOfTen (e - f).toNat) d

/-- The order of two finite numbers. -/
def compareFinite (s : Bool) (c : Nat) (e : Int) (t : Bool) (d : Nat) (f : Int) : Ordering :=
  match s && c ≠ 0, t && d ≠ 0 with
  | true, true => compareMagnitude d f c e
  | true, false => .lt
  | false, true => .gt
  | false, false => compareMagnitude c e d f

/-- The order of two numbers. Not a number cannot be compared. -/
def compare? : Decimal → Decimal → Except Signal Ordering
  | .finite s c e, .finite t d f => .ok (compareFinite s c e t d f)
  | .infinite s, .infinite t => .ok (if s = t then .eq else if s then .lt else .gt)
  | .infinite s, .finite _ _ _ => .ok (if s then .lt else .gt)
  | .finite _ _ _, .infinite s => .ok (if s then .gt else .lt)
  | _, _ => .error .invalidOperation

/-- Whether `x` is at most zero. -/
def nonPositive? (x : Decimal) : Except Signal Bool := do
  return (← compare? x zero) != .gt

/-- The sum of a list of numbers, added to zero from the first to the last. -/
def sum? (xs : List Decimal) : Except Signal Decimal := xs.foldlM add? zero

/-- A result of at most 28 digits whose exponents are in range is kept as it is. -/
theorem settle_of_fits {s : Bool} {c : Nat} {e : Int} (hc : c ≠ 0)
    (digits : Text.digitCount c ≤ precision) (low : leastExponent ≤ e)
    (high : Text.digitCount c + e - 1 ≤ maxExponent) :
    settle s c e = .ok (.finite s c e) := by
  have last : ¬ e < max leastExponent (Text.digitCount c + e - precision) := by
    simp only [precision] at digits ⊢
    omega
  simp only [settle, hc, last, if_false]
  rw [if_neg (by omega)]

end Decimal

end Fulfilment
