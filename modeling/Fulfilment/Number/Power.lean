/-!
# Powers of two and of ten

The two bases that numbers are written in: binary numbers count powers of two, and decimal ones
powers of ten.

## Main definitions

* `powerOfTwo`, `powerOfTen` - the powers
* `isWord` - whether an integer fits into 64 binary digits

## Main results

* `powerOfTwo_pos`, `powerOfTen_pos` - a power is positive, so that a quotient by it is exact
* `powerOfTwo_add`, `powerOfTen_add` - a sum of exponents is a product of powers
* `powerOfTwo_le`, `powerOfTen_le` - powers grow with their exponents
-/

namespace Fulfilment

/-- The power of two with the exponent `n`. -/
def powerOfTwo (n : Nat) : Nat := Nat.pow 2 n

/-- The power of ten with the exponent `n`. -/
def powerOfTen (n : Nat) : Nat := Nat.pow 10 n

/-- Whether an integer fits into 64 binary digits, of which one is the sign. -/
def isWord (n : Int) : Bool := -(powerOfTwo 63 : Int) ≤ n && n < powerOfTwo 63

@[simp] theorem powerOfTwo_zero : powerOfTwo 0 = 1 := rfl

@[simp] theorem powerOfTen_zero : powerOfTen 0 = 1 := rfl

theorem powerOfTwo_succ (n : Nat) : powerOfTwo (n + 1) = powerOfTwo n * 2 := rfl

theorem powerOfTen_succ (n : Nat) : powerOfTen (n + 1) = powerOfTen n * 10 := rfl

theorem powerOfTwo_pos (n : Nat) : 0 < powerOfTwo n := Nat.pow_pos Nat.zero_lt_two

theorem powerOfTen_pos (n : Nat) : 0 < powerOfTen n := Nat.pow_pos (Nat.succ_pos 9)

theorem powerOfTwo_add (m n : Nat) : powerOfTwo (m + n) = powerOfTwo m * powerOfTwo n :=
  Nat.pow_add 2 m n

theorem powerOfTen_add (m n : Nat) : powerOfTen (m + n) = powerOfTen m * powerOfTen n :=
  Nat.pow_add 10 m n

theorem powerOfTwo_le {m n : Nat} (h : m ≤ n) : powerOfTwo m ≤ powerOfTwo n :=
  Nat.pow_le_pow_right Nat.zero_lt_two h

theorem powerOfTen_le {m n : Nat} (h : m ≤ n) : powerOfTen m ≤ powerOfTen n :=
  Nat.pow_le_pow_right (Nat.succ_pos 9) h

end Fulfilment
