import Fulfilment.Number.Binary64

/-!
# Extended binary numbers

Positive binary numbers of 64 digits, eleven more than those of the format binary64. A computation
that ends in a number of that format may be carried out in them; its result is then rounded twice.

## Main definitions

* `Extended` - the numbers
* `Extended.ofQuotient` - the number nearest to a quotient
* `Extended.mul`, `Extended.div`, `Extended.add` - the rounded operations
* `Extended.tenTo` - a power of ten, by repeated squaring
* `Extended.binary64` - the nearest number of the format binary64

## Main results

* `Extended.ofQuotient_exponent` - a power of two does not change the digits
-/

namespace Fulfilment

/-- The number `significand * 2 ^ exponent`. -/
structure Extended where
  /-- The binary digits. -/
  significand : Nat
  /-- The power of two that they count. -/
  exponent : Int
deriving DecidableEq, Repr, Inhabited

namespace Extended

/-- The number of 64 digits nearest to `num / den * 2 ^ exponent`, and the even one of two that are
equally near. -/
def ofQuotient (num den : Nat) (exponent : Int) : Extended :=
  -- The quotient has as many digits as the difference tells, or one less.
  let shift : Int := 64 - ((num.log2 : Int) - den.log2)
  let quotient (shift : Int) : Nat × Nat :=
    (num * powerOfTwo shift.toNat, den * powerOfTwo (-shift).toNat)
  let (n, d) := quotient shift
  let shift := if n / d < powerOfTwo 64 then shift else shift - 1
  let (n, d) := quotient shift
  ⟨Rounding.halfEven n d, exponent - shift⟩

/-- A natural number below `2 ^ 64`. -/
def ofNat (n : Nat) : Extended := ⟨n, 0⟩

/-- A positive number of the format binary64, from its units. -/
def ofUnits (units : Nat) : Extended := ⟨units, -1074⟩

/-- The product, rounded. -/
def mul (x y : Extended) : Extended :=
  ofQuotient (x.significand * y.significand) 1 (x.exponent + y.exponent)

/-- The quotient, rounded. -/
def div (x y : Extended) : Extended :=
  ofQuotient x.significand y.significand (x.exponent - y.exponent)

/-- The lesser of two exponents. -/
def lesser (m n : Int) : Int := if m ≤ n then m else n

/-- The binary digits of a number as a count of a smaller power of two. -/
def countOf (x : Extended) (exponent : Int) : Nat :=
  x.significand * powerOfTwo (x.exponent - exponent).toNat

/-- The sum, rounded. -/
def add (x y : Extended) : Extended :=
  let exponent := lesser x.exponent y.exponent
  ofQuotient (x.countOf exponent + y.countOf exponent) 1 exponent

/-- Whether `x` is at most `y`. -/
def le (x y : Extended) : Bool :=
  let exponent := lesser x.exponent y.exponent
  x.countOf exponent ≤ y.countOf exponent

/-- The largest integer that is not above the number, and what is left above it. -/
def parts (x : Extended) : Nat × Extended :=
  let whole := x.significand * powerOfTwo x.exponent.toNat / powerOfTwo (-x.exponent).toNat
  let rest := x.significand * powerOfTwo x.exponent.toNat % powerOfTwo (-x.exponent).toNat
  (whole, ⟨rest, lesser x.exponent 0⟩)

/-- The power of ten with the exponent `n`: a product of those squares, each rounded, whose binary
places in the exponent are set. -/
def tenTo (n : Nat) : Extended := go (ofNat 10) (ofNat 1) n
where
  /-- The product of `r` and the power of the square `x` with the exponent `n`. -/
  go (x r : Extended) (n : Nat) : Extended :=
    if n = 0 then r
    else
      let r := if n % 2 = 1 then r.mul x else r
      if n / 2 = 0 then r else go (x.mul x) r (n / 2)
  termination_by n

/-- The number of the format binary64 nearest to the number, with the given sign. -/
def binary64 (negative : Bool) (x : Extended) : Binary64 :=
  let shift := x.exponent + 1074
  Binary64.ofUnits negative (x.significand * powerOfTwo shift.toNat) (powerOfTwo (-shift).toNat)

theorem ofQuotient_exponent (num den : Nat) (m n : Int) :
    (ofQuotient num den (m + n)).significand = (ofQuotient num den m).significand ∧
      (ofQuotient num den (m + n)).exponent = (ofQuotient num den m).exponent + n := by
  refine ⟨rfl, ?_⟩
  simp only [ofQuotient]
  omega

end Extended

end Fulfilment
