/-!
# Rounding a quotient

Rounding of the exact quotient of two natural numbers to an integer, used wherever a format keeps
only some of the digits of a result.

## Main definitions

* `Rounding.halfEven` - the nearest integer, and the even one of two that are equally near

## Main results

* `Rounding.halfEven_of_mul` - a whole quotient is not changed
* `Rounding.le_halfEven`, `Rounding.halfEven_le` - the result is a neighbour of the quotient
-/

namespace Fulfilment.Rounding

/-- The integer nearest to `num / den`, and the even one of two that are equally near. -/
def halfEven (num den : Nat) : Nat :=
  let whole := num / den
  let rest := num % den
  if den < 2 * rest ∨ (2 * rest = den ∧ whole % 2 = 1) then whole + 1 else whole

theorem le_halfEven (num den : Nat) : num / den ≤ halfEven num den := by
  unfold halfEven
  simp only
  split <;> omega

theorem halfEven_le (num den : Nat) : halfEven num den ≤ num / den + 1 := by
  unfold halfEven
  simp only
  split <;> omega

theorem halfEven_of_mul {den : Nat} (h : 0 < den) (n : Nat) : halfEven (n * den) den = n := by
  simp only [halfEven, Nat.mul_mod_left, Nat.mul_div_cancel _ h]
  split <;> omega

end Fulfilment.Rounding
