import Fulfilment.Store.Column
import Mathlib.Tactic.Linarith
import Mathlib.Tactic.Ring

/-!
# Amounts in columns

A column holds an amount as a binary number, which is not the amount itself as a rule. Rounded to
two decimal places, though, it is the amount again, as long as the amount is a whole number of
hundredths and below `10 ^ 13`: there the numbers of the format are so close to one another that the
error of the first rounding is less than half of a hundredth.

## Main definitions

* `Decimal.IsAmount` - the finite numbers below `10 ^ 13` in magnitude
* `Decimal.hundredths?` - how many hundredths a number is

## Main results

* `Rounding.halfEven_eq` - what a quotient is rounded to
* `Binary64.halfEven_roundUnits` - two roundings give back a whole number of hundredths
* `Column.amount_of_isAmount` - what a column holds for an amount
-/

namespace Fulfilment

namespace Rounding

variable {n d k : Nat}

@[simp] theorem halfEven_zero (d : Nat) : halfEven 0 d = 0 := by simp [halfEven]

/-- A rounded quotient is off by one half at most. -/
theorem halfEven_near (pos : 0 < d) :
    2 * (halfEven n d * d) ≤ 2 * n + d ∧ 2 * n ≤ 2 * (halfEven n d * d) + d := by
  have whole := Nat.div_add_mod n d
  have rest := Nat.mod_lt n pos
  rw [Nat.mul_comm] at whole
  unfold halfEven
  simp only
  split
  · rw [Nat.add_mul, Nat.one_mul]
    omega
  · omega

/-- A quotient is rounded to the integer that it is less than one half off. -/
theorem halfEven_eq (below : 2 * (k * d) < 2 * n + d) (above : 2 * n < 2 * (k * d) + d) :
    halfEven n d = k := by
  have pos : 0 < d := by
    by_contra none
    obtain rfl : d = 0 := by omega
    simp only [Nat.mul_zero, Nat.add_zero] at below above
    omega
  obtain ⟨low, high⟩ := halfEven_near (n := n) pos
  -- Two integers of which both are so near are less than one apart.
  have le : halfEven n d * d < (k + 1) * d := by
    rw [Nat.add_mul]
    omega
  have ge : k * d < (halfEven n d + 1) * d := by
    rw [Nat.add_mul]
    omega
  have le := Nat.lt_of_mul_lt_mul_right le
  have ge := Nat.lt_of_mul_lt_mul_right ge
  omega

end Rounding

namespace Binary64

variable {num den h : Nat}

theorem spacing_le {units bound : Nat} (le : units < powerOfTwo (bound + 53)) :
    spacing units ≤ bound := by
  unfold spacing
  split
  · omega
  next large =>
    have ne : units ≠ 0 := by
      have pos := powerOfTwo_pos 53
      omega
    have log : units.log2 < bound + 53 := (Nat.log2_lt ne).mpr le
    omega

/-- The nearest number of the format is off by half of the distance of its neighbours at most. -/
theorem roundUnits_near (pos : 0 < den) :
    2 * (roundUnits num den * den) ≤ 2 * num + den * powerOfTwo (spacing (num / den)) ∧
      2 * num ≤ 2 * (roundUnits num den * den) + den * powerOfTwo (spacing (num / den)) := by
  have near := Rounding.halfEven_near (n := num)
    (Nat.mul_pos pos (powerOfTwo_pos (spacing (num / den))))
  have same : roundUnits num den * den =
      Rounding.halfEven num (den * powerOfTwo (spacing (num / den))) *
        (den * powerOfTwo (spacing (num / den))) := by
    simp only [roundUnits]
    ring
  rwa [same]

/-- The distance of the neighbours of a number of hundredths below `10 ^ 15` is far below a
hundredth. -/
theorem gap_lt (pos : 0 < den) (exact : num * 100 = h * den) (small : h < powerOfTen 15) :
    100 * powerOfTwo (spacing (num * unitsOfOne / den)) < unitsOfOne := by
  have whole : num * unitsOfOne / den < powerOfTwo (1065 + 53) := by
    have log : powerOfTen 15 < powerOfTwo 44 * 100 := by decide
    have units : powerOfTwo (1065 + 53) = powerOfTwo 44 * unitsOfOne := by
      rw [unitsOfOne, ← powerOfTwo_add]
    rw [Nat.div_lt_iff_lt_mul pos, units]
    refine Nat.lt_of_mul_lt_mul_right (a := 100) ?_
    calc num * unitsOfOne * 100 = h * (unitsOfOne * den) := by rw [Nat.mul_right_comm, exact]; ring
      _ < powerOfTwo 44 * 100 * (unitsOfOne * den) :=
        Nat.mul_lt_mul_of_pos_right (small.trans log) (Nat.mul_pos (powerOfTwo_pos 1074) pos)
      _ = powerOfTwo 44 * unitsOfOne * den * 100 := by ring
  have le : powerOfTwo (spacing (num * unitsOfOne / den)) ≤ powerOfTwo 1065 :=
    powerOfTwo_le (spacing_le whole)
  have units : unitsOfOne = powerOfTwo 1065 * powerOfTwo 9 := by
    rw [unitsOfOne, ← powerOfTwo_add]
  have factor : powerOfTwo 9 = 512 := by decide
  have some := powerOfTwo_pos 1065
  rw [factor] at units
  omega

/-- A quotient that is a whole number of hundredths, rounded to a number of the format and then to
hundredths, is this number of hundredths again. -/
theorem halfEven_roundUnits (pos : 0 < den) (exact : num * 100 = h * den)
    (small : h < powerOfTen 15) :
    Rounding.halfEven (roundUnits (num * unitsOfOne) den * 100) unitsOfOne = h ∧
      roundUnits (num * unitsOfOne) den < unitsLimit := by
  obtain ⟨low, high⟩ := @roundUnits_near (num * unitsOfOne) den pos
  have gap := gap_lt pos exact small
  generalize powerOfTwo (spacing (num * unitsOfOne / den)) = g at low high gap
  generalize roundUnits (num * unitsOfOne) den = u at low high ⊢
  -- In hundredths, and without the denominator, the error of the first rounding is below a half.
  have scaled : num * unitsOfOne * 100 = h * unitsOfOne * den := by
    rw [Nat.mul_right_comm, exact]
    ring
  have below : 2 * (u * 100) ≤ 2 * (h * unitsOfOne) + 100 * g := by
    refine Nat.le_of_mul_le_mul_right (c := den) ?_ pos
    nlinarith
  have above : 2 * (h * unitsOfOne) ≤ 2 * (u * 100) + 100 * g := by
    refine Nat.le_of_mul_le_mul_right (c := den) ?_ pos
    nlinarith
  refine ⟨Rounding.halfEven_eq (by omega) (by omega), ?_⟩
  have limit : unitsLimit = powerOfTwo 1024 * unitsOfOne := by
    rw [unitsLimit, unitsOfOne, ← powerOfTwo_add]
  have large : powerOfTen 15 < powerOfTwo 1024 :=
    Nat.lt_of_lt_of_le (by decide : powerOfTen 15 < powerOfTwo 50) (powerOfTwo_le (by decide))
  have units : h * unitsOfOne < powerOfTwo 1024 * unitsOfOne :=
    Nat.mul_lt_mul_of_pos_right (small.trans large) (powerOfTwo_pos 1074)
  have more : unitsOfOne ≤ powerOfTwo 1024 * unitsOfOne :=
    Nat.le_mul_of_pos_left _ (powerOfTwo_pos 1024)
  omega

end Binary64

/-! ### Amounts -/

namespace Decimal

/-- Whether a number is finite and below `10 ^ 13` in magnitude. -/
def IsAmount : Decimal → Prop
  | .finite _ c e => c * powerOfTen e.toNat < powerOfTen (13 + (-e).toNat)
  | _ => False

instance : DecidablePred IsAmount
  | .finite _ c e =>
    inferInstanceAs (Decidable (c * powerOfTen e.toNat < powerOfTen (13 + (-e).toNat)))
  | .infinite _ => inferInstanceAs (Decidable False)
  | .nan _ _ _ => inferInstanceAs (Decidable False)

/-- How many hundredths a number is, if it is a whole number of them. -/
def hundredths? : Decimal → Option Int
  | .finite s c e =>
    let num := c * powerOfTen (e + 2).toNat
    let den := powerOfTen (-(e + 2)).toNat
    if num % den = 0 then some (signed s (num / den)) else none
  | _ => none

variable {s : Bool} {c h : Nat} {e : Int} {x : Decimal} {k : Int}

@[simp] theorem signed_zero : signed s 0 = 0 := by cases s <;> rfl

theorem hundredths?_finite (h : Nat) : (finite s h (-2)).hundredths? = some (signed s h) := by
  simp [hundredths?, Nat.mod_one]

/-- A whole number of hundredths as a quotient. -/
theorem exact_of_hundredths?
    (exact : c * powerOfTen (e + 2).toNat = h * powerOfTen (-(e + 2)).toNat) :
    c * powerOfTen e.toNat * 100 = h * powerOfTen (-e).toNat := by
  have hundred : powerOfTen 2 = 100 := rfl
  have ten : powerOfTen 1 = 10 := rfl
  rcases (by omega : 0 ≤ e ∨ e = -1 ∨ e ≤ -2) with large | rfl | small
  · have up : (e + 2).toNat = e.toNat + 2 := by omega
    have down : (-(e + 2)).toNat = (-e).toNat := by omega
    rwa [up, down, powerOfTen_add, hundred, ← Nat.mul_assoc] at exact
  · have tenth : c * 10 = h := by simpa [ten] using exact
    have down : (-(-1 : Int)).toNat = 1 := rfl
    rw [down, ten, ← tenth]
    simp [Nat.mul_assoc]
  · have none : (e + 2).toNat = 0 := by omega
    have none' : e.toNat = 0 := by omega
    have down : (-e).toNat = (-(e + 2)).toNat + 2 := by omega
    rw [none, powerOfTen_zero, Nat.mul_one] at exact
    rw [none', powerOfTen_zero, Nat.mul_one, down, powerOfTen_add, hundred, exact, Nat.mul_assoc]

/-- The digits of an amount stand neither too high nor, if it is a whole number of hundredths, too
low for the format. -/
theorem magnitude_of_isAmount (amount : (finite s c e).IsAmount) (ne : c ≠ 0)
    (exact : c * powerOfTen (e + 2).toNat = h * powerOfTen (-(e + 2)).toNat) :
    -400 ≤ e + (Nat.toDigits 10 c).length ∧ e + (Nat.toDigits 10 c).length ≤ 400 := by
  have some := Nat.length_toDigits_pos (b := 10) (n := c)
  have digits (k : Nat) (pos : 0 < k) : (Nat.toDigits 10 c).length ≤ k ↔ c < powerOfTen k :=
    Nat.length_toDigits_le_iff (by decide) pos
  constructor
  · -- A positive number of hundredths has a digit in the hundredths or above.
    by_contra low
    have few := (digits (-(e + 2)).toNat (by omega)).mp (by omega)
    have none : (e + 2).toNat = 0 := by omega
    rw [none, powerOfTen_zero, Nat.mul_one] at exact
    have large : powerOfTen (-(e + 2)).toNat ≤ c := by
      rw [exact]
      refine Nat.le_mul_of_pos_left _ (Nat.pos_of_ne_zero ?_)
      rintro rfl
      exact ne (by rw [exact, Nat.zero_mul])
    omega
  · by_cases negative : e < 0
    · have none : e.toNat = 0 := by omega
      rw [IsAmount, none, powerOfTen_zero, Nat.mul_one, ← digits _ (by omega)] at amount
      omega
    · have none : (-e).toNat = 0 := by omega
      rw [IsAmount, none, Nat.add_zero] at amount
      have few : c < powerOfTen 13 :=
        Nat.lt_of_le_of_lt (Nat.le_mul_of_pos_right c (powerOfTen_pos _)) amount
      have power : powerOfTen e.toNat < powerOfTen 13 :=
        Nat.lt_of_le_of_lt (Nat.le_mul_of_pos_left _ (Nat.pos_of_ne_zero ne)) amount
      rw [← digits 13 (by decide)] at few
      have low : e.toNat < 13 := by
        by_contra high
        have le := powerOfTen_le (Nat.le_of_not_lt high)
        omega
      omega

end Decimal

namespace Binary64

variable {num den : Nat}

theorem ofScientific_eq_ofRatio {s : Bool} {c : Nat} {e : Int} (ne : c ≠ 0)
    (low : -400 ≤ e + (Nat.toDigits 10 c).length) (high : e + (Nat.toDigits 10 c).length ≤ 400) :
    ofScientific s c e = ofRatio s (c * powerOfTen e.toNat) (powerOfTen (-e).toNat) := by
  have notSmall : ¬ (c = 0 ∨ e + (Nat.toDigits 10 c).length < -400) := by omega
  have notLarge : ¬ 400 < e + (Nat.toDigits 10 c).length := by omega
  simp only [ofScientific, if_neg notSmall, if_neg notLarge]
  split
  next whole =>
    have none : (-e).toNat = 0 := by omega
    rw [none, powerOfTen_zero]
  next fraction =>
    have none : e.toNat = 0 := by omega
    rw [none, powerOfTen_zero, Nat.mul_one]

theorem ofUnits_of_lt {s : Bool} (finite : roundUnits num den < unitsLimit) :
    ofUnits s num den = .finite s (roundUnits num den) := by
  unfold ofUnits
  exact if_pos finite

theorem ofScientific_ne_nan (s : Bool) (c : Nat) (e : Int) : ofScientific s c e ≠ .nan := by
  have ratio (num den : Nat) : ofRatio s num den ≠ .nan := by
    simp only [ofRatio, ofUnits]
    split <;> exact nofun
  simp only [ofScientific]
  split
  · exact nofun
  · split
    · exact nofun
    · split <;> exact ratio _ _

end Binary64

namespace Decimal

variable {s : Bool} {c h : Nat} {e : Int}

/-- A whole number of hundredths below the limit is read back from the nearest number of the
format. -/
theorem ofHundredths_ofScientific (amount : (finite s c e).IsAmount)
    (exact : c * powerOfTen (e + 2).toNat = h * powerOfTen (-(e + 2)).toNat) :
    ofHundredths (.ofScientific s c e) = .finite s h (-2) := by
  by_cases zero : c = 0
  · subst zero
    have none : h = 0 := by
      rw [Nat.zero_mul] at exact
      exact (Nat.mul_eq_zero.mp exact.symm).resolve_right (powerOfTen_pos _).ne'
    simp [Binary64.ofScientific, ofHundredths, none]
  have quotient := exact_of_hundredths? exact
  have small : h < powerOfTen 15 := by
    have hundred : powerOfTen 2 = 100 := rfl
    refine Nat.lt_of_mul_lt_mul_right (a := powerOfTen (-e).toNat) ?_
    calc h * powerOfTen (-e).toNat = c * powerOfTen e.toNat * 100 := quotient.symm
      _ < powerOfTen (13 + (-e).toNat) * 100 :=
        Nat.mul_lt_mul_of_pos_right amount (by decide)
      _ = powerOfTen 15 * powerOfTen (-e).toNat := by
        rw [← hundred, ← powerOfTen_add, ← powerOfTen_add]
        congr 1
        omega
  obtain ⟨low, high⟩ := magnitude_of_isAmount amount zero exact
  obtain ⟨again, finite⟩ := Binary64.halfEven_roundUnits (powerOfTen_pos _) quotient small
  rw [Binary64.ofScientific_eq_ofRatio zero low high, Binary64.ofRatio,
    Binary64.ofUnits_of_lt finite, ofHundredths, again]

end Decimal

namespace Column

/-- A column holds a number for every amount, and the same number of hundredths is read back. -/
theorem amount_of_isAmount {x : Decimal} (h : x.IsAmount) :
    ∃ b, amount x = .ok (some b) ∧
      ∀ k, x.hundredths? = some k → (Decimal.ofHundredths b).hundredths? = some k := by
  obtain ⟨s, c, e⟩ | _ | _ := x
  case infinite => cases h
  case nan => cases h
  have held : amount (.finite s c e) = .ok (some (if (Binary64.ofScientific s c e).isZero then
      .zero else .ofScientific s c e)) := by
    have number := Binary64.ofScientific_ne_nan s c e
    unfold amount Decimal.toBinary64?
    split
    next none => cases none
    next nan => exact absurd (Option.some.inj nan) number
    next same =>
      cases same
      rfl
  refine ⟨_, held, fun k hundredths => ?_⟩
  simp only [Decimal.hundredths?] at hundredths
  split at hundredths
  case isFalse => cases hundredths
  next whole =>
    cases hundredths
    have back := Decimal.ofHundredths_ofScientific h
      (Nat.div_mul_cancel (Nat.dvd_of_mod_eq_zero whole)).symm
    generalize Binary64.ofScientific s c e = b at back
    split
    next zero =>
      -- Zero is held without a sign, and a zero of either sign is no hundredths.
      obtain _ | _ | ⟨t, u⟩ := b
      case nan => cases zero
      case infinite => cases zero
      obtain rfl : u = 0 := by simpa [Binary64.isZero] using zero
      have none : (Decimal.ofHundredths .zero).hundredths? = some 0 := by
        rw [Binary64.zero, Decimal.ofHundredths, Decimal.hundredths?_finite, Nat.zero_mul,
          Rounding.halfEven_zero, Decimal.signed_zero]
      rw [Decimal.ofHundredths, Nat.zero_mul, Rounding.halfEven_zero, Decimal.finite.injEq] at back
      rw [none, ← back.2.1, Decimal.signed_zero]
    · rw [back, Decimal.hundredths?_finite]

end Column

end Fulfilment
