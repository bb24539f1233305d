import Fulfilment.Proofs.Findings
import Mathlib.Algebra.Order.Field.Power
import Mathlib.Algebra.Order.Field.Rat
import Mathlib.Tactic.FieldSimp
import Mathlib.Tactic.Positivity

/-!
# Exact decimal arithmetic

Decimal arithmetic rounds a result to 28 digits, and fits it into a range of exponents. A result
that has so many digits at most and lies in the range is not changed, whatever the forms of the
operands are: no digit is dropped but zeros, and operands that lie far apart are aligned without
loss. So as long as the exact results are representable, the operations compute in the rational
numbers, and the comparison, which never rounds, is the order there.

## Main definitions

* `Decimal.IsRepresentable` - the numbers with 28 digits at most, within the exponents
* `Decimal.IsExactly` - whether an operation has a result, and that of a certain value

## Main results

* `Text.digitCount_mul_powerOfTen` - zeros at the end of a number are digits
* `Decimal.settle_exact` - a representable number is not rounded
* `Decimal.mul?_exact`, `Decimal.add?_exact`, `Decimal.sub?_exact`, `Decimal.abs?_exact` - the
  operations, where their results are representable
* `Decimal.compare?_eq_gt_iff` - the comparison of finite numbers
-/

namespace Fulfilment

/-! ### Numbers of digits -/

namespace Text

variable {n k : Nat}

theorem digitCount_pos (n : Nat) : 0 < digitCount n := Nat.length_toDigits_pos

theorem digitCount_le_iff (pos : 0 < k) : digitCount n ≤ k ↔ n < powerOfTen k :=
  Nat.length_toDigits_le_iff (by decide) pos

theorem lt_powerOfTen (n : Nat) : n < powerOfTen (digitCount n) :=
  (digitCount_le_iff (digitCount_pos n)).mp (Nat.le_refl _)

theorem powerOfTen_digitCount_le (pos : 0 < n) : powerOfTen (digitCount n - 1) ≤ n := by
  by_cases single : digitCount n - 1 = 0
  · rw [single]
    exact pos
  · have := (digitCount_le_iff (n := n) (Nat.pos_of_ne_zero single)).not
    omega

theorem digitCount_eq (low : powerOfTen k ≤ n) (high : n < powerOfTen (k + 1)) :
    digitCount n = k + 1 := by
  have le := (digitCount_le_iff (Nat.succ_pos k)).mpr high
  by_cases single : k = 0
  · have := digitCount_pos n
    omega
  · have := (digitCount_le_iff (n := n) (Nat.pos_of_ne_zero single)).not
    omega

/-- Zeros at the end of a number are digits. -/
theorem digitCount_mul_powerOfTen (pos : 0 < n) (k : Nat) :
    digitCount (n * powerOfTen k) = digitCount n + k := by
  obtain ⟨d, digits⟩ := Nat.exists_eq_add_one.mpr (digitCount_pos n)
  have low := powerOfTen_digitCount_le pos
  have high := lt_powerOfTen n
  rw [digits] at low high
  have same : digitCount n + k = d + k + 1 := by omega
  rw [same]
  refine digitCount_eq ?_ ?_
  · rw [powerOfTen_add]
    exact Nat.mul_le_mul_right _ low
  · rw [Nat.add_right_comm, powerOfTen_add]
    exact Nat.mul_lt_mul_of_pos_right high (powerOfTen_pos k)

end Text

/-! ### Values with a power of ten -/

namespace Decimal

open Text

variable {s t : Bool} {c d : Nat} {e f : Int} {m n : Int}

theorem tenTo_pos (e : Int) : (0 : ℚ) < 10 ^ e := zpow_pos (by norm_num) e

theorem tenTo_add (e f : Int) : (10 : ℚ) ^ (e + f) = 10 ^ e * 10 ^ f :=
  zpow_add₀ (by norm_num) e f

theorem tenTo_nat (k : Nat) : (10 : ℚ) ^ (k : Int) = powerOfTen k := by
  rw [zpow_natCast, powerOfTen, Nat.pow_eq, Nat.cast_pow, Nat.cast_ofNat]

theorem tenTo_toNat (nonneg : 0 ≤ e) : (10 : ℚ) ^ e = powerOfTen e.toNat := by
  rw [← tenTo_nat, Int.toNat_of_nonneg nonneg]

theorem tenTo_lt_iff : (10 : ℚ) ^ e < 10 ^ f ↔ e < f := zpow_lt_zpow_iff_right₀ (by norm_num)

theorem tenTo_le_iff : (10 : ℚ) ^ e ≤ 10 ^ f ↔ e ≤ f := zpow_le_zpow_iff_right₀ (by norm_num)

theorem signed_mul (s : Bool) (c k : Nat) : signed s (c * k) = signed s c * k := by
  cases s <;> simp [signed]

theorem value_finite (s : Bool) (c : Nat) (e : Int) :
    (finite s c e).value = signed s c * 10 ^ e := by
  rw [value, Rat.mkRat_eq_div, signed_mul, Int.cast_mul, Int.cast_natCast]
  rcases le_total 0 e with nonneg | nonpos
  · have none : (-e).toNat = 0 := by omega
    rw [none, powerOfTen_zero, Nat.cast_one, div_one, tenTo_toNat nonneg]
  · have none : e.toNat = 0 := by omega
    have same : e = -(-e) := by omega
    rw [none, powerOfTen_zero, Nat.cast_one, mul_one, div_eq_mul_inv]
    conv_rhs => rw [same, zpow_neg, tenTo_toNat (by omega)]

/-- The same number with powers of ten of which the second is the larger one. -/
theorem mul_tenTo_eq_iff (le : e ≤ f) :
    (m : ℚ) * 10 ^ e = n * 10 ^ f ↔ m = n * powerOfTen (f - e).toNat := by
  have split : (10 : ℚ) ^ f = powerOfTen (f - e).toNat * 10 ^ e := by
    rw [← tenTo_toNat (by omega), ← tenTo_add]
    congr 1
    omega
  rw [split, ← mul_assoc, mul_left_inj' (tenTo_pos e).ne']
  exact_mod_cast Iff.rfl

/-- A number in a smaller power of ten. -/
theorem mul_tenTo_eq (m : Int) (le : e ≤ f) :
    (m : ℚ) * 10 ^ f = (m * powerOfTen (f - e).toNat : Int) * 10 ^ e :=
  ((mul_tenTo_eq_iff le).mpr rfl).symm

theorem abs_signed (s : Bool) (c : Nat) : |(signed s c : ℚ)| = c := by
  cases s <;> simp [signed]

theorem abs_mul_tenTo (s : Bool) (c : Nat) (e : Int) :
    |(signed s c : ℚ) * 10 ^ e| = c * 10 ^ e := by
  rw [abs_mul, abs_signed, abs_of_pos (tenTo_pos e)]

/-- A positive number is below the power of ten that its digits tell, and not below the one before
it. -/
theorem mul_tenTo_bounds (pos : 0 < c) (e : Int) :
    (10 : ℚ) ^ (digitCount c + e - 1) ≤ c * 10 ^ e ∧
      (c : ℚ) * 10 ^ e < 10 ^ (digitCount c + e) := by
  have some := digitCount_pos c
  constructor
  · have first : (digitCount c + e - 1 : Int) = ((digitCount c - 1 : Nat) : Int) + e := by omega
    rw [first, tenTo_add, tenTo_nat]
    gcongr
    exact powerOfTen_digitCount_le pos
  · rw [tenTo_add, tenTo_nat]
    gcongr
    exact lt_powerOfTen c

/-- The place of the first digit does not depend on the form of a number. -/
theorem digitCount_add_eq (pos : 0 < c) (pos' : 0 < d) (same : (c : ℚ) * 10 ^ e = d * 10 ^ f) :
    (digitCount c + e : Int) = digitCount d + f := by
  obtain ⟨low, high⟩ := mul_tenTo_bounds pos e
  obtain ⟨low', high'⟩ := mul_tenTo_bounds pos' f
  rw [same] at low high
  have le := tenTo_lt_iff.mp (low.trans_lt high')
  have le' := tenTo_lt_iff.mp (low'.trans_lt high)
  omega

/-! ### Representable numbers -/

/-- Whether a number has a form with 28 digits at most, with no digit outside the exponents. -/
def IsRepresentable (q : ℚ) : Prop :=
  ∃ n e : Int, q = n * 10 ^ e ∧ digitCount n.natAbs ≤ precision ∧ leastExponent ≤ e ∧
    digitCount n.natAbs + e - 1 ≤ maxExponent

/-- Whether an operation has a result, a finite number of a certain value. -/
def IsExactly {ε : Type} (result : Except ε Decimal) (q : ℚ) : Prop :=
  ∃ x : Decimal, result = .ok x ∧ x.IsFinite ∧ x.value = q

theorem isRepresentable_zero : IsRepresentable 0 := ⟨0, 0, by simp, by decide, by decide, by decide⟩

theorem IsRepresentable.abs {q : ℚ} (h : IsRepresentable q) : IsRepresentable |q| := by
  obtain ⟨n, e, rfl, digits, low, high⟩ := h
  refine ⟨n.natAbs, e, ?_, digits, low, high⟩
  rw [abs_mul, abs_of_pos (tenTo_pos e), Int.natCast_natAbs, Int.cast_abs]

/-- The form of a representable number that has a certain coefficient otherwise. -/
theorem IsRepresentable.form (h : IsRepresentable (signed s c * 10 ^ e)) (pos : 0 < c) :
    ∃ d f, (c : ℚ) * 10 ^ e = (d : Nat) * 10 ^ f ∧ 0 < d ∧ digitCount d ≤ precision ∧
      leastExponent ≤ f ∧ digitCount d + f - 1 ≤ maxExponent := by
  obtain ⟨n, f, same, digits, low, high⟩ := h
  have magnitude : (c : ℚ) * 10 ^ e = n.natAbs * 10 ^ f := by
    rw [← abs_mul_tenTo s c e, same, abs_mul, abs_of_pos (tenTo_pos f), Nat.cast_natAbs,
      Int.cast_abs]
  refine ⟨n.natAbs, f, magnitude, ?_, digits, low, high⟩
  have : (0 : ℚ) < n.natAbs * 10 ^ f := by
    rw [← magnitude]
    have := tenTo_pos e
    positivity
  exact_mod_cast pos_of_mul_pos_left this (tenTo_pos f).le

theorem settle_zero (s : Bool) (e : Int) : IsExactly (settle s 0 e) 0 := by
  refine ⟨.finite s 0 (max leastExponent (min maxExponent e)), rfl, trivial, ?_⟩
  rw [value_finite]
  simp [signed]

/-- A coefficient without zeros at its end that would be dropped is kept. -/
theorem settle_of_last_le (pos : 0 < c) (high : digitCount c + e - 1 ≤ maxExponent)
    (last : max leastExponent (digitCount c + e - precision) ≤ e) :
    settle s c e = .ok (.finite s c e) :=
  settle_of_fits pos.ne' (by omega) (by omega) high

/-- Zeros at the end of a coefficient are dropped, as far as there are too many digits. -/
theorem settle_of_lt_last {l : Int} (pos : 0 < c) (digits : digitCount c ≤ precision)
    (high : digitCount c + l - 1 ≤ maxExponent) (lt : e < l)
    (last : max leastExponent
      (digitCount (c * powerOfTen (l - e).toNat) + e - precision) = l) :
    settle s (c * powerOfTen (l - e).toNat) e = .ok (.finite s c l) := by
  have pos' : 0 < c * powerOfTen (l - e).toNat := Nat.mul_pos pos (powerOfTen_pos _)
  have whole : dropDigits (c * powerOfTen (l - e).toNat) (l - e).toNat = c := by
    rw [dropDigits, digitCount_mul_powerOfTen pos, if_neg (by omega),
      Rounding.halfEven_of_mul (powerOfTen_pos _)]
  have small : c ≠ powerOfTen precision := ((digitCount_le_iff (by decide)).mp digits).ne
  simp only [settle, pos'.ne', last, lt, whole, small, if_true, if_false]
  exact if_neg (by omega)

/-- Only zeros are dropped from a representable number. -/
theorem settle_exact (h : IsRepresentable (signed s c * 10 ^ e)) :
    IsExactly (settle s c e) (signed s c * 10 ^ e) := by
  rcases Nat.eq_zero_or_pos c with rfl | pos
  · have zero : (signed s 0 : ℚ) * 10 ^ e = 0 := by simp
    rw [zero]
    exact settle_zero s e
  obtain ⟨d, f, same, some, digits, low, high⟩ := h.form pos
  have place := digitCount_add_eq pos some same
  -- The last digit that is kept does not stand above the last digit of the short form.
  generalize last : max leastExponent (digitCount c + e - precision) = l
  have kept : l ≤ f := by omega
  rcases le_or_gt l e with le | lt
  · exact ⟨_, settle_of_last_le pos (by omega) (last ▸ le), trivial, value_finite s c e⟩
  · have whole : c = d * powerOfTen (f - e).toNat := by
      exact_mod_cast (mul_tenTo_eq_iff (m := c) (n := d) (by omega)).mp (mod_cast same)
    -- The zeros between the two last digits stay.
    obtain ⟨k, rfl⟩ : ∃ k : Nat, f = l + k := ⟨(f - l).toNat, by omega⟩
    have parts : c = d * powerOfTen k * powerOfTen (l - e).toNat := by
      have exponents : (l + k - e).toNat = k + (l - e).toNat := by omega
      rw [whole, exponents, powerOfTen_add, Nat.mul_assoc]
    have pos' : 0 < d * powerOfTen k := Nat.mul_pos some (powerOfTen_pos k)
    have count := digitCount_mul_powerOfTen some k
    subst parts
    refine ⟨_, settle_of_lt_last pos' (by omega) (by omega) lt last, trivial, ?_⟩
    rw [value_finite, eq_comm, mul_tenTo_eq_iff lt.le, signed_mul s (d * powerOfTen k)]

/-! ### The operations -/

variable {x y : Decimal}

theorem exists_finite (finite : x.IsFinite) : ∃ s c e, x = .finite s c e := by
  obtain ⟨s, c, e⟩ | _ | _ := x
  · exact ⟨s, c, e, rfl⟩
  · cases finite
  · cases finite

/-- A number with the sign of another one. -/
theorem signed_natAbs (zero : Bool) (n : Int) :
    signed (if n = 0 then zero else n < 0) n.natAbs = n := by
  by_cases none : n = 0
  · simp [none, signed]
  · rw [if_neg none]
    by_cases negative : n < 0 <;>
      simp only [signed, negative, decide_true, decide_false, Bool.false_eq_true, if_true,
        if_false] <;>
      omega

theorem mul?_exact {n : Int} (finite : x.IsFinite) (h : IsRepresentable (n * x.value)) :
    IsExactly (x.mul? (.ofInt n)) (n * x.value) := by
  obtain ⟨s, c, e, rfl⟩ := exists_finite finite
  have same : (n * (Decimal.finite s c e).value : ℚ) =
      signed (s != decide (n < 0)) (c * n.natAbs) * 10 ^ (e + 0) := by
    have sign : signed (s != decide (n < 0)) (c * n.natAbs) = n * signed s c := by
      by_cases negative : n < 0 <;> cases s <;> simp [signed, negative] <;> grind
    rw [sign, value_finite, add_zero, Int.cast_mul, mul_assoc]
  rw [same] at h ⊢
  exact settle_exact h

/-- A representable sum with a number that lies far below the other one is a sum with zero. -/
theorem eq_zero_of_far (pos : 0 < c) (far : digitCount d + f ≤ e - 30)
    (h : IsRepresentable (signed s c * 10 ^ e + signed t d * 10 ^ f)) : d = 0 := by
  by_contra none
  obtain ⟨n, g, same, digits, -⟩ := h
  -- The sum is hardly less than the larger number, so that its last digit stands well above the
  -- first one of the smaller number.
  have large : (10 : ℚ) ^ e ≤ c * 10 ^ e :=
    le_mul_of_one_le_left (tenTo_pos e).le (mod_cast pos)
  have small : (d : ℚ) * 10 ^ f < 10 ^ (e - 1) :=
    (mul_tenTo_bounds (Nat.pos_of_ne_zero none) f).2.trans_le (tenTo_le_iff.mpr (by omega))
  have tenfold : (10 : ℚ) ^ e = 10 * 10 ^ (e - 1) := by
    conv_lhs => rw [show e = 1 + (e - 1) by omega, tenTo_add, zpow_one]
  have sum : (10 : ℚ) ^ (e - 1) < |(n : ℚ) * 10 ^ g| := by
    have triangle := abs_sub_abs_le_abs_add (signed s c * 10 ^ e : ℚ) (signed t d * 10 ^ f)
    rw [abs_mul_tenTo, abs_mul_tenTo, same] at triangle
    have := tenTo_pos (e - 1)
    linarith
  have last : e - 28 ≤ g := by
    have bound : |(n : ℚ) * 10 ^ g| < 10 ^ (28 + g) := by
      have fits := (digitCount_le_iff (by decide)).mp digits
      have few : |(n : ℚ)| < 10 ^ (28 : Int) := by
        rw [← Int.cast_abs, ← Int.natCast_natAbs]
        exact_mod_cast fits
      rw [abs_mul, abs_of_pos (tenTo_pos g), tenTo_add]
      exact mul_lt_mul_of_pos_right few (tenTo_pos g)
    have := tenTo_lt_iff.mp (sum.trans bound)
    omega
  -- So the smaller number is divided by a power of ten with more digits than it has.
  have difference : signed t d = n * powerOfTen (g - f).toNat -
      signed s c * powerOfTen (e - f).toNat := by
    rw [mul_tenTo_eq n (by omega : f ≤ g), mul_tenTo_eq (signed s c) (by omega : f ≤ e), ← add_mul,
      mul_left_inj' (tenTo_pos f).ne'] at same
    have same : signed s c * powerOfTen (e - f).toNat + signed t d =
      n * powerOfTen (g - f).toNat := mod_cast same
    omega
  have divides {k : Int} (le : digitCount d ≤ k - f) :
      (powerOfTen (digitCount d) : Int) ∣ powerOfTen (k - f).toNat := by
    obtain ⟨more, split⟩ : ∃ more, (k - f).toNat = digitCount d + more :=
      ⟨(k - f).toNat - digitCount d, by omega⟩
    rw [split, powerOfTen_add, Nat.cast_mul]
    exact dvd_mul_right _ _
  have whole : powerOfTen (digitCount d) ∣ d := by
    have whole : (powerOfTen (digitCount d) : Int) ∣ signed t d := by
      rw [difference]
      exact dvd_sub ((divides (by omega)).mul_left n) ((divides (by omega)).mul_left _)
    rw [← Int.natCast_dvd_natCast]
    cases t
    · exact whole
    · exact (Int.dvd_neg.mp whole)
  have := Nat.le_of_dvd (Nat.pos_of_ne_zero none) whole
  have := lt_powerOfTen d
  omega

/-- The sum of two numbers that are counted in the power of ten of the second one. -/
theorem settle_sum_exact {zero : Bool} (le : f ≤ e)
    (h : IsRepresentable (signed s c * 10 ^ e + signed t d * 10 ^ f)) :
    let sum := signed s (if c = 0 then 0 else c * powerOfTen (e - f).toNat) + signed t d
    IsExactly (settle (if sum = 0 then zero else sum < 0) sum.natAbs f)
      (signed s c * 10 ^ e + signed t d * 10 ^ f) := by
  intro sum
  have shifted : (if c = 0 then 0 else c * powerOfTen (e - f).toNat) =
      c * powerOfTen (e - f).toNat := by
    split
    · simp [*]
    · rfl
  have same : (signed s c * 10 ^ e + signed t d * 10 ^ f : ℚ) =
      signed (if sum = 0 then zero else sum < 0) sum.natAbs * 10 ^ f := by
    rw [signed_natAbs, mul_tenTo_eq (signed s c) le, ← add_mul, ← Int.cast_add]
    simp only [sum, shifted, signed_mul]
  rw [same] at h ⊢
  exact settle_exact h

theorem addAligned_exact (le : f ≤ e)
    (h : IsRepresentable (signed s c * 10 ^ e + signed t d * 10 ^ f)) :
    IsExactly (addAligned s c e t d f) (signed s c * 10 ^ e + signed t d * 10 ^ f) := by
  by_cases far : c ≠ 0 ∧ digitCount d + f ≤ e - 30
  · obtain rfl : d = 0 := eq_zero_of_far (Nat.pos_of_ne_zero far.1) far.2 h
    have zero (g : Int) : (signed t 0 * 10 ^ f : ℚ) = signed t 0 * 10 ^ g := by simp
    rw [zero (max f (e - 31))] at h ⊢
    simp only [addAligned, if_pos far, Nat.zero_min]
    exact settle_sum_exact (by omega) h
  · simp only [addAligned, if_neg far]
    exact settle_sum_exact le h

theorem add?_exact (finite : x.IsFinite) (finite' : y.IsFinite)
    (h : IsRepresentable (x.value + y.value)) : IsExactly (x.add? y) (x.value + y.value) := by
  obtain ⟨s, c, e, rfl⟩ := exists_finite finite
  obtain ⟨t, d, f, rfl⟩ := exists_finite finite'
  rw [value_finite, value_finite] at h ⊢
  rw [add?]
  split
  next le => exact addAligned_exact le h
  next gt =>
    rw [add_comm] at h ⊢
    exact addAligned_exact (by omega) h

theorem isFinite_negate (finite : x.IsFinite) : x.negate.IsFinite := by
  cases x <;> exact finite

theorem value_negate (x : Decimal) : x.negate.value = -x.value := by
  obtain ⟨s, c, e⟩ | _ | _ := x
  · cases s <;> simp [negate, value_finite, signed]
  · rfl
  · rfl

theorem sub?_exact (finite : x.IsFinite) (finite' : y.IsFinite)
    (h : IsRepresentable (x.value - y.value)) : IsExactly (x.sub? y) (x.value - y.value) := by
  rw [sub_eq_add_neg, ← value_negate] at h ⊢
  exact add?_exact finite (isFinite_negate finite') h

theorem abs?_exact (finite : x.IsFinite) (h : IsRepresentable x.value) :
    IsExactly x.abs? |x.value| := by
  obtain ⟨s, c, e, rfl⟩ := exists_finite finite
  have same : |(Decimal.finite s c e).value| = signed false c * 10 ^ e := by
    rw [value_finite, abs_mul_tenTo]
    simp [signed]
  rw [same]
  exact settle_exact (same ▸ h.abs)

/-! ### The order -/

theorem compareMagnitude_eq_gt_iff :
    compareMagnitude c e d f = .gt ↔ (d : ℚ) * 10 ^ f < c * 10 ^ e := by
  have up := tenTo_pos e
  have up' := tenTo_pos f
  rw [compareMagnitude]
  split
  case isTrue none =>
    rw [Nat.compare_eq_gt]
    rcases none with rfl | rfl
    · have : (0 : ℚ) ≤ d * 10 ^ f := by positivity
      simp [this]
    · simp [up]
  case isFalse some =>
    rw [not_or] at some
    obtain ⟨low, high⟩ := mul_tenTo_bounds (Nat.pos_of_ne_zero some.1) e
    obtain ⟨low', high'⟩ := mul_tenTo_bounds (Nat.pos_of_ne_zero some.2) f
    dsimp only
    split
    case isTrue ne =>
      -- The place of the first digit decides.
      rw [Int.compare_eq_gt]
      constructor
      · intro gt
        exact high'.trans_le ((tenTo_le_iff.mpr (by omega)).trans low)
      · intro gt
        have := tenTo_lt_iff.mp (low'.trans_lt (gt.trans high))
        omega
    case isFalse same =>
      split
      case isTrue le =>
        rw [Nat.compare_eq_gt, ← Int.cast_natCast d, mul_tenTo_eq d le, mul_lt_mul_iff_left₀ up]
        exact_mod_cast Iff.rfl
      case isFalse gt =>
        rw [Nat.compare_eq_gt, ← Int.cast_natCast c, mul_tenTo_eq c (by omega : f ≤ e),
          mul_lt_mul_iff_left₀ up']
        exact_mod_cast Iff.rfl

/-- The value of a number that is negative. -/
theorem signed_of_negative (negative : (s && decide (c ≠ 0)) = true) :
    signed s c = -c ∧ 0 < c := by
  rw [Bool.and_eq_true, decide_eq_true_iff] at negative
  obtain ⟨rfl, some⟩ := negative
  exact ⟨rfl, Nat.pos_of_ne_zero some⟩

/-- The value of a number that is not negative, though it may have a sign if it is zero. -/
theorem signed_of_not_negative (nonneg : (s && decide (c ≠ 0)) = false) : signed s c = c := by
  cases s
  · rfl
  · simp_all [signed]

/-- Finite numbers are compared by their values. -/
theorem compare?_eq_gt_iff (finite : x.IsFinite) (finite' : y.IsFinite) :
    ∃ order, x.compare? y = .ok order ∧ (order = .gt ↔ y.value < x.value) := by
  obtain ⟨s, c, e, rfl⟩ := exists_finite finite
  obtain ⟨t, d, f, rfl⟩ := exists_finite finite'
  refine ⟨compareFinite s c e t d f, rfl, ?_⟩
  rw [value_finite, value_finite, compareFinite]
  -- Between numbers of different signs, zero decides.
  have below {s : Bool} {c : Nat} (e : Int) (negative : (s && decide (c ≠ 0)) = true) :
      (signed s c * 10 ^ e : ℚ) < 0 := by
    obtain ⟨same, pos⟩ := signed_of_negative negative
    have := tenTo_pos e
    rw [same, Int.cast_neg, neg_mul, neg_lt_zero]
    positivity
  have above {s : Bool} {c : Nat} (e : Int) (nonneg : (s && decide (c ≠ 0)) = false) :
      (0 : ℚ) ≤ signed s c * 10 ^ e := by
    have := tenTo_pos e
    rw [signed_of_not_negative nonneg]
    positivity
  split
  next negative negative' =>
    rw [compareMagnitude_eq_gt_iff, (signed_of_negative negative).1,
      (signed_of_negative negative').1]
    push_cast
    constructor <;> intro <;> linarith
  next negative nonneg =>
    simpa using ((below e negative).trans_le (above f nonneg)).le
  next nonneg negative =>
    simpa using (below f negative).trans_le (above e nonneg)
  next nonneg nonneg' =>
    rw [compareMagnitude_eq_gt_iff, signed_of_not_negative nonneg, signed_of_not_negative nonneg']
    rfl

end Decimal

end Fulfilment
