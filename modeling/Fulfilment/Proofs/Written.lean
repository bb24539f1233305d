import Fulfilment.Proofs.Exactness

/-!
# Binary numbers that are read as decimal ones

A binary number is written with the shortest digits that are read back as it, in one of several
forms: with a point among the digits, before or after them, or with a power of ten. Whatever the
form, the text can be read as a decimal number, and then stands for the digits times their power of
ten. So a decimal number can be held against a binary one as it is written.

## Main definitions

* `Text.IsDigits`, `Text.number` - texts of digits, and the numbers that they write
* `Numeral.Spells` - the forms in which digits are written
* `Binary64.IsNumber` - whether a number is one of the format
* `Binary64.writtenValue` - the value that the text of a number writes

## Main results

* `Shortest.digits_bounds` - the shortest digits are not all zero, and not too many
* `Decimal.ofText_of_spells` - digits are read as they are written
* `Decimal.ofText_text` - the text of a finite binary number is read, as what it writes
-/

namespace Fulfilment

/-! ### Digits -/

namespace Text

variable {cs ds : List Char} {n k : Nat}

/-- Whether there are only digits. -/
def IsDigits (cs : List Char) : Prop := ∀ c ∈ cs, isAsciiDigit c = true

/-- The number that digits write. -/
def number (cs : List Char) : Nat := Nat.ofDigitChars 10 cs 0

theorem ofDigits_map (cs : List Char) : ofDigits (cs.map fun c => c.toNat - 48) = number cs := by
  rw [ofDigits, List.foldl_map]
  exact Nat.ofDigitChars_eq_foldl.symm

theorem number_append (cs ds : List Char) :
    number (cs ++ ds) = number cs * powerOfTen ds.length + number ds := by
  rw [number, Nat.ofDigitChars_append, Nat.ofDigitChars_eq_ofDigitChars_zero, Nat.mul_comm]
  rfl

theorem number_replicate_zero (k : Nat) : number (List.replicate k '0') = 0 := by
  rw [number, Nat.ofDigitChars_replicate_zero, Nat.mul_zero]

theorem number_replicate_zero_append (k : Nat) (ds : List Char) :
    number (List.replicate k '0' ++ ds) = number ds := by
  rw [number_append, number_replicate_zero, Nat.zero_mul, Nat.zero_add]

theorem number_append_replicate_zero (ds : List Char) (k : Nat) :
    number (ds ++ List.replicate k '0') = number ds * powerOfTen k := by
  rw [number_append, number_replicate_zero, List.length_replicate, Nat.add_zero]

theorem number_toDigits (n : Nat) : number (Nat.toDigits 10 n) = n :=
  Nat.ofDigitChars_toDigits (by decide) (by decide)

theorem isDigits_toDigits (n : Nat) : IsDigits (Nat.toDigits 10 n) := fun _ mem =>
  Nat.isDigit_of_mem_toDigits (by decide) (by decide) mem

theorem IsDigits.append (h : IsDigits cs) (h' : IsDigits ds) : IsDigits (cs ++ ds) := fun c mem =>
  (List.mem_append.mp mem).elim (h c) (h' c)

theorem isDigits_replicate_zero (k : Nat) : IsDigits (List.replicate k '0') := fun _ mem => by
  obtain rfl := List.eq_of_mem_replicate mem
  decide

theorem toDigits_ne_nil (n : Nat) : Nat.toDigits 10 n ≠ [] :=
  List.length_pos_iff.mp Nat.length_toDigits_pos

end Text

open Text

/-- The zeros at the end of a number are apart from its other digits. -/
theorem Binary64.dropZeros_eq {n : Nat} (pos : 0 < n) :
    ∃ ds zeros, dropZeros n = (ds, zeros) ∧ IsDigits ds ∧ ds ≠ [] ∧
      n = number ds * powerOfTen zeros := by
  let rev := (Nat.toDigits 10 n).reverse
  have zeros : (rev.takeWhile (· == '0')).reverse =
      List.replicate (rev.takeWhile (· == '0')).length '0' := by
    rw [List.eq_replicate_iff, List.length_reverse]
    refine ⟨rfl, fun c mem => ?_⟩
    have zero := List.mem_takeWhile_imp (List.mem_reverse.mp mem)
    exact beq_iff_eq.mp zero
  have split : Nat.toDigits 10 n = (rev.dropWhile (· == '0')).reverse ++
      List.replicate (rev.takeWhile (· == '0')).length '0' := by
    rw [← zeros, ← List.reverse_append, List.takeWhile_append_dropWhile, List.reverse_reverse]
  have value : n = number (rev.dropWhile (· == '0')).reverse *
      powerOfTen (rev.takeWhile (· == '0')).length := by
    conv_lhs => rw [← number_toDigits n, split, number_append_replicate_zero]
  refine ⟨_, _, rfl, fun c mem => ?_, fun none => ?_, value⟩
  · refine isDigits_toDigits n c ?_
    rw [split]
    exact List.mem_append_left _ mem
  · rw [none] at value
    simp [number] at value
    omega

/-! ### The forms of written numbers -/

namespace Numeral

variable {whole fraction tail cs : List Char} {power e : Int} {c : Nat}

/-- Digits with a point, unless nothing follows it. -/
def mantissa (whole fraction : List Char) : List Char :=
  whole ++ if fraction = [] then [] else '.' :: fraction

/-- What follows the mantissa, and the power of ten that it writes. -/
inductive WritesPower : List Char → Int → Prop
  /-- Nothing. -/
  | absent : WritesPower [] 0
  /-- A power of ten with a sign. -/
  | present (negative : Bool) {ds : List Char} (digits : IsDigits ds) (some : ds ≠ []) :
      WritesPower ('e' :: (if negative then '-' else '+') :: ds)
        (if negative then -number ds else number ds)

/-- Whether characters write the digits of a coefficient and an exponent. -/
inductive Spells : List Char → Nat → Int → Prop
  /-- There is a digit before the point. -/
  | intro {whole fraction tail : List Char} {power : Int} (some : whole ≠ [])
      (digits : IsDigits whole) (digits' : IsDigits fraction) (writes : WritesPower tail power) :
      Spells (mantissa whole fraction ++ tail) (number (whole ++ fraction))
        (power - fraction.length)

/-- What ends a row of digits. -/
def Stops (cs : List Char) : Prop := ∀ c ∈ cs.head?, isAsciiDigit c = false

theorem digit?_plain (c : Char) :
    Style.plain.digit? c = if isAsciiDigit c then some (c.toNat - 48) else none := rfl

theorem digits_of_stops (stops : Stops cs) : Style.plain.digits cs = ([], cs) := by
  cases cs with
  | nil => rfl
  | cons c cs =>
    have none : Style.plain.digit? c = none := by
      rw [digit?_plain, stops c rfl]
      rfl
    rw [Style.digits.eq_def]
    simp only [none]

theorem digits_cons {c : Char} (digit : isAsciiDigit c = true) (cs : List Char) :
    Style.plain.digits (c :: cs) =
      ((c.toNat - 48) :: (Style.plain.digits cs).1, (Style.plain.digits cs).2) := by
  have some : Style.plain.digit? c = some (c.toNat - 48) := if_pos digit
  rw [Style.digits.eq_def]
  simp only [some]
  -- An underscore is no exception in this style.
  split <;> rfl

theorem digits_append (digits : IsDigits cs) (stops : Stops tail) :
    Style.plain.digits (cs ++ tail) = (cs.map fun c => c.toNat - 48, tail) := by
  induction cs with
  | nil => exact digits_of_stops stops
  | cons c cs ih =>
    obtain ⟨first, others⟩ := List.forall_mem_cons.mp digits
    rw [List.cons_append, digits_cons first, ih others, List.map_cons]

theorem digits_self (digits : IsDigits cs) :
    Style.plain.digits cs = (cs.map fun c => c.toNat - 48, []) := by
  have whole := digits_append digits (nofun : Stops [])
  rwa [List.append_nil] at whole

theorem power?_of_writesPower (h : WritesPower tail power) :
    Style.plain.power? tail = some power := by
  cases h with
  | absent => rfl
  | @present negative ds digits some =>
    obtain ⟨d, ds, rfl⟩ := List.exists_cons_of_ne_nil some
    have value := ofDigits_map (d :: ds)
    rw [List.map_cons] at value
    cases negative <;> simp [Style.power?, sign, digits_self digits, value]

theorem WritesPower.stops (h : WritesPower tail power) : Stops tail := by
  cases h with
  | absent => nofun
  | present =>
    intro c head
    cases head
    rfl

/-- Digits in one of these forms are read. -/
theorem unsigned?_of_spells (negative : Bool) (h : Spells cs c e) :
    Style.plain.unsigned? negative cs = some (.finite negative c e) := by
  obtain @⟨whole, fraction, tail, power, some, digits, digits', writes⟩ := h
  have read := power?_of_writesPower writes
  have value := ofDigits_map (whole ++ fraction)
  rw [List.map_append] at value
  have given : (whole.map fun c => c.toNat - 48).isEmpty = false := by simpa using some
  by_cases none : fraction = []
  · have front : Style.plain.digits (mantissa whole fraction ++ tail) =
        (whole.map fun c => c.toNat - 48, tail) := by
      rw [mantissa, if_pos none, List.append_nil, digits_append digits writes.stops]
    rw [Style.unsigned?, front]
    subst none
    rw [List.map_nil, List.append_nil] at value
    -- There is no point, since there is nothing or a letter after the digits.
    cases writes <;> simp [given, read, value]
  · have front : Style.plain.digits (mantissa whole fraction ++ tail) =
        (whole.map fun c => c.toNat - 48, '.' :: (fraction ++ tail)) := by
      have stops : Stops ('.' :: (fraction ++ tail)) := by
        intro c head
        cases head
        rfl
      rw [mantissa, if_neg none, List.append_assoc, List.cons_append, digits_append digits stops]
    rw [Style.unsigned?, front]
    simp [digits_append digits' writes.stops, given, read, value]

end Numeral

/-! ### Reading -/

namespace Decimal

open Numeral

variable {cs : List Char} {c : Nat} {e : Int}

/-- Whether a character is read as it stands. -/
def IsPlain (c : Char) : Prop := c.toNat < 128 ∧ c ≠ '_' ∧ isBlank c = false

instance : DecidablePred IsPlain := fun c =>
  inferInstanceAs (Decidable (c.toNat < 128 ∧ c ≠ '_' ∧ isBlank c = false))

theorem normalize?_of_isPlain (plain : ∀ c ∈ cs, IsPlain c) : normalize? cs = some cs := by
  have ends {cs : List Char} (plain : ∀ c ∈ cs, IsPlain c) : cs.dropWhile isBlank = cs := by
    cases cs with
    | nil => rfl
    | cons c cs => rw [List.dropWhile_cons_of_neg (by simp [(plain c List.mem_cons_self).2.2])]
  have trimmed : trimChars cs = cs := by
    rw [trimChars, strip, ends plain, ends (fun c mem => plain c (List.mem_reverse.mp mem)),
      List.reverse_reverse]
  have kept : cs.filter (· != '_') = cs :=
    List.filter_eq_self.mpr fun c mem => bne_iff_ne.mpr (plain c mem).2.1
  rw [normalize?, trimmed, kept]
  clear ends trimmed kept
  induction cs with
  | nil => rfl
  | cons c cs ih =>
    rw [List.forall_mem_cons] at plain
    rw [List.mapM_cons, if_pos plain.1.1, ih plain.2]
    rfl

/-- What holds of the ten digits of ASCII. -/
theorem of_isAsciiDigit (p : Char → Prop) {c : Char} (digit : isAsciiDigit c = true)
    (each : ∀ n < 10, p (Char.ofNat (48 + n))) : p c := by
  rw [isAsciiDigit, Bool.and_eq_true, decide_eq_true_iff, decide_eq_true_iff] at digit
  have same : 48 + (c.toNat - 48) = c.toNat := by omega
  have holds := each (c.toNat - 48) (by omega)
  rwa [same, Char.ofNat_toNat] at holds

theorem isPlain_of_isAsciiDigit {c : Char} (digit : isAsciiDigit c = true) : IsPlain c :=
  of_isAsciiDigit IsPlain digit (by decide)

theorem isPlain_of_spells (h : Spells cs c e) : ∀ c ∈ cs, IsPlain c := by
  obtain ⟨some, digits, digits', writes⟩ := h
  intro c mem
  rcases List.mem_append.mp mem with mem | mem
  · rcases List.mem_append.mp mem with mem | mem
    · exact isPlain_of_isAsciiDigit (digits c mem)
    · split at mem
      · cases mem
      · rcases List.mem_cons.mp mem with rfl | mem
        · decide
        · exact isPlain_of_isAsciiDigit (digits' c mem)
  · cases writes with
    | absent => cases mem
    | @present negative ds digits some =>
      rcases List.mem_cons.mp mem with rfl | mem
      · decide
      · rcases List.mem_cons.mp mem with rfl | mem
        · cases negative <;> decide
        · exact isPlain_of_isAsciiDigit (digits c mem)

/-- The characters begin with a digit. -/
theorem exists_digit_of_spells (h : Spells cs c e) :
    ∃ d rest, cs = d :: rest ∧ isAsciiDigit d = true := by
  obtain @⟨whole, fraction, tail, power, some, digits, digits', writes⟩ := h
  obtain ⟨d, ds, rfl⟩ := List.exists_cons_of_ne_nil some
  exact ⟨d, _, rfl, digits d List.mem_cons_self⟩

/-- Digits are read as they are written, if their exponents are not too large. -/
theorem ofText_of_spells (negative : Bool) (h : Spells cs c e)
    (high : (if c = 0 then e else digitCount c + e - 1) ≤ maxWrittenExponent)
    (low : leastWrittenExponent ≤ e) :
    ofText (String.ofList (if negative then '-' :: cs else cs)) = .ok (.finite negative c e) := by
  have normal : normalize? (if negative then '-' :: cs else cs) =
      some (if negative then '-' :: cs else cs) := by
    refine normalize?_of_isPlain ?_
    cases negative
    · exact isPlain_of_spells h
    · exact List.forall_mem_cons.mpr ⟨by decide, isPlain_of_spells h⟩
  have read := unsigned?_of_spells negative h
  obtain ⟨d, rest, rfl, digit⟩ := exists_digit_of_spells h
  have signed :
      sign (if negative then '-' :: d :: rest else d :: rest) = (negative, d :: rest) := by
    cases negative
    · have unsigned : d ≠ '+' ∧ d ≠ '-' :=
        of_isAsciiDigit (fun d => d ≠ '+' ∧ d ≠ '-') digit (by decide)
      simp [sign, unsigned]
    · rfl
  -- It is no name that is read, since no name begins with a digit.
  have lower : d.toLower = d := of_isAsciiDigit (fun d => d.toLower = d) digit (by decide)
  have unnamed : d ≠ 'n' ∧ d ≠ 's' ∧ d ≠ 'i' :=
    of_isAsciiDigit (fun d => d ≠ 'n' ∧ d ≠ 's' ∧ d ≠ 'i') digit (by decide)
  have number : nan? (if negative then '-' :: d :: rest else d :: rest) = none := by
    simp only [nan?, signed, List.map_cons, List.take_succ_cons, lower, List.cons.injEq, unnamed,
      false_and, if_false]
  have whole : read? .plain (if negative then '-' :: d :: rest else d :: rest) =
      some (.finite negative c e) := by
    rw [read?, signed]
    simp [spells, lower, unnamed, read]
  rw [ofText, String.toList_ofList, normal]
  simp only [number, whole, ofNumeral]
  rw [if_neg (by omega)]

end Decimal

/-! ### The shortest digits -/

namespace Shortest

open Binary64

variable {units den n : Nat} {exponent : Int}

theorem spacing_lt (pos : 0 < units) : powerOfTwo (spacing units) < 2 * units := by
  rw [spacing]
  split
  case isTrue =>
    rw [powerOfTwo_zero]
    omega
  case isFalse =>
    have le : powerOfTwo (units.log2 - 52) ≤ powerOfTwo units.log2 := powerOfTwo_le (Nat.sub_le _ _)
    have := le.trans (Nat.log2_self_le pos.ne')
    omega

/-- Zero is not read back as a positive number. -/
theorem covers_zero (pos : 0 < units) (pos' : 0 < den) :
    (interval units).covers 0 den = false := by
  have gap := spacing_lt pos
  have lower : 0 < (interval units).lower := by
    simp only [interval]
    split <;> omega
  have some : 0 < (interval units).lower * den := Nat.mul_pos lower pos'
  rw [Interval.covers]
  split
  · simp
    omega
  · simp

theorem onGrid?_bounds (pos : 0 < units) (h : onGrid? units exponent = some n) :
    0 < n ∧ n ≤ units * powerOfTen (-exponent).toNat + 1 := by
  have scale := powerOfTen_pos (-exponent).toNat
  unfold onGrid? at h
  dsimp only at h
  have le := Nat.div_le_self (units * powerOfTen (-exponent).toNat)
    (unitsOfOne * powerOfTen exponent.toNat)
  generalize below : units * powerOfTen (-exponent).toNat /
    (unitsOfOne * powerOfTen exponent.toNat) = m at h le
  have some (low : (interval units).covers (m * (unitsOfOne * powerOfTen exponent.toNat))
      (powerOfTen (-exponent).toNat) = true) : 0 < m := by
    rcases Nat.eq_zero_or_pos m with rfl | some
    · rw [Nat.zero_mul, covers_zero pos scale] at low
      cases low
    · exact some
  split at h
  next low _ =>
    have := some low
    have same := Option.some.inj h
    split at same <;> omega
  next low _ =>
    have := some low
    have same := Option.some.inj h
    omega
  next =>
    have same := Option.some.inj h
    omega
  next => cases h

/-- On a grid that is not above the first digit, the number is at least one. -/
theorem one_le_of_le_decimalExponent (pos : 0 < units) (le : exponent ≤ decimalExponent units) :
    unitsOfOne * powerOfTen exponent.toNat ≤ units * powerOfTen (-exponent).toNat := by
  have one : 0 < unitsOfOne := powerOfTwo_pos 1074
  rw [decimalExponent] at le
  split at le
  case isTrue large =>
    have whole : 0 < units / unitsOfOne := Nat.div_pos large one
    have digits := powerOfTen_digitCount_le whole
    have grid : powerOfTen exponent.toNat ≤ units / unitsOfOne :=
      (powerOfTen_le (by rw [digitCount]; omega)).trans digits
    calc unitsOfOne * powerOfTen exponent.toNat
        ≤ unitsOfOne * (units / unitsOfOne) := Nat.mul_le_mul_left _ grid
      _ ≤ units := Nat.mul_div_le units unitsOfOne
      _ ≤ units * powerOfTen (-exponent).toNat := Nat.le_mul_of_pos_right _ (powerOfTen_pos _)
  case isFalse small =>
    have digits := lt_powerOfTen ((unitsOfOne - 1) / units)
    have grid : powerOfTen (digitCount ((unitsOfOne - 1) / units)) ≤ powerOfTen (-exponent).toNat :=
      powerOfTen_le (by rw [digitCount]; omega)
    have below := Nat.lt_mul_of_div_lt (digits.trans_le grid) pos
    have none : exponent.toNat = 0 := by omega
    rw [none, powerOfTen_zero, Nat.mul_one]
    rw [Nat.mul_comm] at below
    omega

theorem search_bounds (pos : 0 < units) (more : Nat) (le : exponent ≤ decimalExponent units) :
    0 < (search units more exponent).1 ∧
      (search units more exponent).1 ≤
        units * powerOfTen (-(search units more exponent).2).toNat + 1 ∧
      exponent - more ≤ (search units more exponent).2 ∧
      (search units more exponent).2 ≤ exponent := by
  induction more generalizing exponent with
  | zero =>
    rw [search]
    cases hit : onGrid? units exponent with
    | some n =>
      obtain ⟨some, bound⟩ := onGrid?_bounds pos hit
      exact ⟨some, bound, by simp, Int.le_refl exponent⟩
    | none =>
      -- The nearest multiple is taken, which is one at least, since the number is not below one.
      have step : 0 < unitsOfOne * powerOfTen exponent.toNat :=
        Nat.mul_pos (powerOfTwo_pos 1074) (powerOfTen_pos _)
      have whole := Nat.div_pos (one_le_of_le_decimalExponent pos le) step
      have low := Rounding.le_halfEven (units * powerOfTen (-exponent).toNat)
        (unitsOfOne * powerOfTen exponent.toNat)
      have high := Rounding.halfEven_le (units * powerOfTen (-exponent).toNat)
        (unitsOfOne * powerOfTen exponent.toNat)
      have := Nat.div_le_self (units * powerOfTen (-exponent).toNat)
        (unitsOfOne * powerOfTen exponent.toNat)
      exact ⟨whole.trans_le low, high.trans (Nat.add_le_add_right this 1), by simp,
        Int.le_refl exponent⟩
  | succ more ih =>
    rw [search]
    cases hit : onGrid? units exponent with
    | some n =>
      obtain ⟨some, bound⟩ := onGrid?_bounds pos hit
      exact ⟨some, bound, by simp only; omega, Int.le_refl exponent⟩
    | none =>
      obtain ⟨some, bound, low, high⟩ := @ih (exponent - 1) (by omega)
      exact ⟨some, bound, by simp only; omega, by simp only; omega⟩

theorem powerOfTwo_le_powerOfTen (k : Nat) : powerOfTwo k ≤ powerOfTen k :=
  Nat.pow_le_pow_left (by decide) k

/-- The first digit of a number in range stands where the exponents of the format allow it. -/
theorem decimalExponent_bounds (limit : units < unitsLimit) :
    -1074 ≤ decimalExponent units ∧ decimalExponent units ≤ 1023 := by
  have one : 0 < unitsOfOne := powerOfTwo_pos 1074
  rw [decimalExponent]
  split
  case isTrue large =>
    have scaled : unitsLimit = powerOfTwo 1024 * unitsOfOne := by
      rw [unitsLimit, unitsOfOne, ← powerOfTwo_add]
    rw [scaled] at limit
    have small := (Nat.div_lt_of_lt_mul (Nat.mul_comm _ _ ▸ limit)).trans_le
      (powerOfTwo_le_powerOfTen 1024)
    have digits := (digitCount_le_iff (by decide)).mpr small
    have some := digitCount_pos (units / unitsOfOne)
    rw [digitCount] at digits some
    omega
  case isFalse =>
    have small : (unitsOfOne - 1) / units < powerOfTen 1074 :=
      ((Nat.div_le_self _ _).trans_lt (Nat.sub_lt one Nat.one_pos)).trans_le
        (powerOfTwo_le_powerOfTen 1074)
    have digits := (digitCount_le_iff (by decide)).mpr small
    rw [digitCount] at digits
    omega

/-- The shortest digits are not all zero, and they and their power of ten are not too large to be
read as a decimal number. -/
theorem digits_bounds (pos : 0 < units) (limit : units < unitsLimit) :
    0 < (digits units).1 ∧ digitCount (digits units).1 ≤ 3189 ∧ -1090 ≤ (digits units).2 ∧
      (digits units).2 ≤ 1023 := by
  obtain ⟨least, greatest⟩ := decimalExponent_bounds limit
  obtain ⟨some, bound, low, high⟩ := search_bounds pos 16 (Int.le_refl (decimalExponent units))
  rw [← digits] at some bound low high
  refine ⟨some, (digitCount_le_iff (by decide)).mpr ?_, by omega, by omega⟩
  -- The limit of the format is below `10 ^ 2098`, and no grid is finer than `10 ^ -1090`.
  have scale : powerOfTen (-(digits units).2).toNat ≤ powerOfTen 1090 := powerOfTen_le (by omega)
  have few : units * powerOfTen (-(digits units).2).toNat ≤ powerOfTen 3188 :=
    calc units * powerOfTen (-(digits units).2).toNat
        ≤ powerOfTen 2098 * powerOfTen 1090 :=
          Nat.mul_le_mul (limit.le.trans (powerOfTwo_le_powerOfTen 2098)) scale
      _ = powerOfTen 3188 := (powerOfTen_add 2098 1090).symm
  have some := powerOfTen_pos 3188
  rw [powerOfTen_succ]
  omega

end Shortest

/-! ### The text of a binary number -/

namespace Binary64

open Numeral Decimal

variable {ds : List Char}

/-- Whether there is a number, which is below the limit of the format if it is finite. -/
structure IsNumber (x : Binary64) : Prop where
  ne_nan : x ≠ .nan
  lt_limit : ∀ s u, x = .finite s u → u < unitsLimit

/-- The digits that the text of a finite number writes, with their sign, and the power of ten that
they count. -/
def writtenForm : Binary64 → Int × Int
  | .finite s u =>
    if u = 0 then (0, 0) else (Decimal.signed s (Shortest.digits u).1, (Shortest.digits u).2)
  | _ => (0, 0)

/-- The number that the text of a finite number writes. -/
def writtenValue (x : Binary64) : ℚ := x.writtenForm.1 * 10 ^ x.writtenForm.2

theorem lt_limit_of_ofRatio {s t : Bool} {num den u : Nat} (h : ofRatio s num den = .finite t u) :
    u < unitsLimit := by
  simp only [ofRatio, ofUnits] at h
  split at h
  next lt =>
    cases h
    exact lt
  next => cases h

/-- What is read from digits is a number. -/
theorem isNumber_ofScientific (s : Bool) (c : Nat) (e : Int) : (ofScientific s c e).IsNumber where
  ne_nan := ofScientific_ne_nan s c e
  lt_limit t u h := by
    simp only [ofScientific] at h
    split at h
    · cases h
      exact powerOfTwo_pos 2098
    · split at h
      · cases h
      · split at h <;> exact lt_limit_of_ofRatio h

/-- Digits with a point before, after or among them. -/
theorem spells_positional (digits : IsDigits ds) (some : ds ≠ []) (point : Int) :
    ∃ c e, Spells (positional ds point) c e ∧
      (c : ℚ) * 10 ^ e = number ds * 10 ^ (point - ds.length) ∧
      min (point - ds.length) (-1) ≤ e := by
  have zero : IsDigits ['0'] := isDigits_replicate_zero 1
  rw [positional]
  split
  case isTrue =>
    let zeros := List.replicate (-point).toNat '0'
    have spelled := Spells.intro (nofun : ['0'] ≠ []) zero
      ((isDigits_replicate_zero (-point).toNat).append digits) .absent
    have value : number (['0'] ++ (zeros ++ ds)) = number ds :=
      (number_replicate_zero_append 1 _).trans (number_replicate_zero_append _ ds)
    have places : (0 : Int) - (zeros ++ ds).length = point - ds.length := by
      rw [List.length_append, List.length_replicate]
      omega
    rw [value, places] at spelled
    refine ⟨_, _, ?_, rfl, min_le_left _ _⟩
    simpa [mantissa, some] using spelled
  case isFalse =>
    split
    case isTrue after =>
      let zeros := List.replicate (point.toNat - ds.length) '0'
      have spelled := Spells.intro (List.append_ne_nil_of_left_ne_nil some zeros)
        (digits.append (isDigits_replicate_zero _)) zero .absent
      have value : number (ds ++ zeros ++ ['0']) =
          number ds * powerOfTen (point - ds.length - -1).toNat := by
        have more : (point - ds.length - -1).toNat = point.toNat - ds.length + 1 := by omega
        rw [more, ← number_append_replicate_zero, List.replicate_succ', List.append_assoc]
      refine ⟨number (ds ++ zeros ++ ['0']), _, ?_, ?_, min_le_right _ _⟩
      · simpa [mantissa] using spelled
      · rw [value]
        exact_mod_cast (mul_tenTo_eq (number ds) (by omega : -1 ≤ point - ds.length)).symm
    case isFalse =>
      have size : ds.length - point.toNat ≠ 0 := by omega
      have size' : point.toNat ≠ 0 := by omega
      have split := List.take_append_drop point.toNat ds
      have front : IsDigits (ds.take point.toNat) := fun c mem =>
        digits c (List.mem_of_mem_take mem)
      have back : IsDigits (ds.drop point.toNat) := fun c mem =>
        digits c (List.mem_of_mem_drop mem)
      have first : ds.take point.toNat ≠ [] := by simp [some, size']
      have spelled := Spells.intro first front back .absent
      have places : (0 : Int) - (ds.drop point.toNat).length = point - ds.length := by
        rw [List.length_drop]
        omega
      rw [split, places] at spelled
      refine ⟨_, _, ?_, rfl, min_le_left _ _⟩
      have others : ds.drop point.toNat ≠ [] := by
        rw [← List.length_pos_iff, List.length_drop]
        omega
      simpa [mantissa, others] using spelled

/-- Digits with a point after the first one, and a power of ten. -/
theorem spells_scientific (digits : IsDigits ds) (some : ds ≠ []) (power : Int) :
    Spells (scientific ds power) (number ds) (power + 1 - ds.length) := by
  obtain ⟨d, ds, rfl⟩ := List.exists_cons_of_ne_nil some
  have size : ∃ cs, (if (Nat.toDigits 10 power.natAbs).length < 2 then
      '0' :: Nat.toDigits 10 power.natAbs else Nat.toDigits 10 power.natAbs) = cs ∧
      IsDigits cs ∧ cs ≠ [] ∧ number cs = power.natAbs := by
    split
    · exact ⟨_, rfl, (isDigits_replicate_zero 1).append (isDigits_toDigits _), nofun,
        (number_replicate_zero_append 1 _).trans (number_toDigits _)⟩
    · exact ⟨_, rfl, isDigits_toDigits _, toDigits_ne_nil _, number_toDigits _⟩
  obtain ⟨cs, same, digits', some', value⟩ := size
  have writes := WritesPower.present (decide (power < 0)) digits' some'
  have sign : (if decide (power < 0) = true then -(number cs : Int) else number cs) = power := by
    rw [value]
    split
    next negative =>
      have := of_decide_eq_true negative
      omega
    next nonneg =>
      have := of_decide_eq_false (Bool.eq_false_of_not_eq_true nonneg)
      omega
  have spelled := Spells.intro (nofun : [d] ≠ [])
    (fun c mem => digits c (List.mem_cons.mpr (.inl (List.mem_singleton.mp mem))))
    (fun c mem => digits c (List.mem_cons_of_mem d mem)) writes
  have places : power - ds.length = power + 1 - (d :: ds).length := by
    rw [List.length_cons]
    omega
  rw [sign, places] at spelled
  unfold scientific
  dsimp only
  rw [same]
  cases ds <;> simpa [mantissa] using spelled

/-- The text of a number writes its shortest digits. -/
theorem spells_unitsText {units : Nat} (pos : 0 < units) (limit : units < unitsLimit) :
    ∃ c e, Spells (unitsText units) c e ∧
      (c : ℚ) * 10 ^ e = (Shortest.digits units).1 * 10 ^ (Shortest.digits units).2 ∧
      -1090 ≤ e := by
  obtain ⟨pos', -, least, -⟩ := Shortest.digits_bounds pos limit
  generalize shortest : Shortest.digits units = short at pos' least
  obtain ⟨n, exponent⟩ := short
  dsimp only at pos' least ⊢
  obtain ⟨ds, zeros, dropped, digits, some, split⟩ := dropZeros_eq pos'
  have value {place : Int} (last : place = exponent + zeros) :
      (number ds : ℚ) * 10 ^ place = n * 10 ^ exponent := by
    rw [last, add_comm, tenTo_add, tenTo_nat, ← mul_assoc, split, Nat.cast_mul]
  simp only [unitsText, shortest, dropped]
  split
  · obtain ⟨c, e, spelled, same, low⟩ :=
      spells_positional digits some (exponent + zeros + ds.length)
    exact ⟨c, e, spelled, same.trans (value (by omega)), by omega⟩
  · exact ⟨_, _, spells_scientific digits some _, value (by omega), by omega⟩

/-- The text of an infinity is read as one. -/
theorem ofText_text_infinite (s : Bool) :
    Decimal.ofText (infinite s).text = .ok (.infinite s) := by
  cases s <;> decide

end Binary64

open Binary64 in
/-- The text of a finite number is read, and as the number that it writes. -/
theorem Decimal.ofText_text (s : Bool) {u : Nat} (limit : u < unitsLimit) :
    IsExactly (ofText (Binary64.finite s u).text) (Binary64.finite s u).writtenValue := by
  rcases Nat.eq_zero_or_pos u with rfl | pos
  · have read : ofText (Binary64.finite s 0).text = .ok (.finite s 0 (-1)) := by
      cases s <;> decide
    refine ⟨_, read, trivial, ?_⟩
    rw [value_finite, writtenValue, writtenForm, if_pos rfl]
    cases s <;> simp [signed]
  obtain ⟨c, e, spelled, same, low⟩ := spells_unitsText pos limit
  obtain ⟨pos', few, -, high⟩ := Shortest.digits_bounds pos limit
  have some : 0 < c := by
    have positive : (0 : ℚ) < c * 10 ^ e := by
      rw [same]
      exact mul_pos (mod_cast pos') (tenTo_pos _)
    exact_mod_cast pos_of_mul_pos_left positive (tenTo_pos e).le
  -- The first digit stands where that of the shortest digits does.
  have place := digitCount_add_eq some pos' same
  have highest : (if c = 0 then e else digitCount c + e - 1) ≤ maxWrittenExponent := by
    rw [if_neg some.ne', place, maxWrittenExponent]
    omega
  have lowest : leastWrittenExponent ≤ e := by
    rw [leastWrittenExponent]
    omega
  have read := ofText_of_spells s spelled highest lowest
  refine ⟨.finite s c e, ?_, trivial, ?_⟩
  · rw [Binary64.text, if_neg pos.ne']
    exact read
  · rw [value_finite, writtenValue, writtenForm, if_neg pos.ne']
    cases s <;> simp [signed, same]

/-- One hundredth is not a binary number, but it is what the text of the one next to it writes. -/
example : (Binary64.ofScientific false 1 (-2)).writtenForm = (1, -2) := by decide +kernel

end Fulfilment
