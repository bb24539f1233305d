import Fulfilment.Execution.Visit
import Fulfilment.Proofs.Amounts

/-!
# When conditions fail

A condition is evaluated for any value and in any context, and nearly always the evaluation has a
result. There are two exceptions. A list or an object cannot be the name of a field; and a
comparison by size reads both sides as binary numbers, for which an integer can be too large. The
largest finite number of the format is `2 ^ 1024 - 2 ^ 971`, and integers are rounded up from it to
`2 ^ 1024` from the middle between the two on, because the mantissa of the latter is even.

## Main definitions

* `Value.IsCompound`, `Value.IsHuge` - the values that cannot name a field, and those that are too
  large to be compared
* `Condition.found?` - what a context has under the field of a condition
* `Condition.Fails` - why an evaluation fails
* `Condition.Unreadable` - the sides of a comparison by size that are no numbers

## Main results

* `Rounding.le_halfEven_iff` - an even integer is reached from one half below it on
* `Binary64.ofInt?_eq_none_iff` - which integers have no nearest number
* `Condition.eval_eq_error_iff` - when an evaluation fails
* `Condition.next_visit_eq_error_iff` - when a node fails at its condition
* `Condition.holds_cases` - what an evaluation comes to, for all values and in all contexts
-/

namespace Fulfilment

/-! ### Integers without a nearest number -/

theorem Rounding.le_halfEven_iff {n d k : Nat} (pos : 0 < d) (even : k % 2 = 0) :
    k ≤ halfEven n d ↔ 2 * (k * d) ≤ 2 * n + d := by
  have whole := Nat.div_add_mod n d
  have rest := Nat.mod_lt n pos
  have low := le_halfEven n d
  have high := halfEven_le n d
  rw [Nat.mul_comm] at whole
  rcases (by omega : k ≤ n / d ∨ k = n / d + 1 ∨ n / d + 2 ≤ k) with small | near | large
  · have := Nat.mul_le_mul_right d small
    omega
  · -- The quotient below is odd, so that the middle is rounded up.
    have next : k * d = n / d * d + d := by rw [near, Nat.add_mul, Nat.one_mul]
    unfold halfEven
    simp only
    split <;> omega
  · have := Nat.mul_le_mul_right d large
    rw [Nat.add_mul] at this
    omega

namespace Binary64

variable {units exponent : Nat}

theorem powerOfTwo_le_iff (ne : units ≠ 0) : powerOfTwo exponent ≤ units ↔ exponent ≤ units.log2 :=
  (Nat.le_log2 ne).symm

theorem lt_powerOfTwo_iff (ne : units ≠ 0) : units < powerOfTwo exponent ↔ units.log2 < exponent :=
  (Nat.log2_lt ne).symm

/-- The distance between the numbers that have one and the same binary logarithm. -/
theorem spacing_eq (low : powerOfTwo (exponent + 52) ≤ units)
    (high : units < powerOfTwo (exponent + 53)) (pos : 0 < exponent) :
    spacing units = exponent := by
  have ne : units ≠ 0 := by
    have := powerOfTwo_pos (exponent + 52)
    omega
  have large : ¬ units < powerOfTwo 53 := by
    have := powerOfTwo_le (by omega : 53 ≤ exponent + 52)
    omega
  have log := (powerOfTwo_le_iff ne).mp low
  have log' := (lt_powerOfTwo_iff ne).mp high
  rw [spacing, if_neg large]
  omega

theorem roundUnits_one (units : Nat) :
    roundUnits units 1 =
      Rounding.halfEven units (powerOfTwo (spacing units)) * powerOfTwo (spacing units) := by
  rw [roundUnits, Nat.div_one, Nat.one_mul]

/-- Units are rounded to the limit of the format or beyond from the middle on between the largest
number of the format and the limit. -/
theorem unitsLimit_le_roundUnits_iff (units : Nat) :
    unitsLimit ≤ roundUnits units 1 ↔ unitsLimit ≤ units + powerOfTwo 2044 := by
  have some := powerOfTwo_pos 2044
  have half : powerOfTwo (2044 + 53) = powerOfTwo 2044 * 2 ^ 53 := by
    rw [show 2 ^ 53 = powerOfTwo 53 from rfl, ← powerOfTwo_add]
  have limit : unitsLimit = powerOfTwo 2044 * 2 ^ 54 := by
    rw [unitsLimit, show 2 ^ 54 = powerOfTwo 54 from rfl, ← powerOfTwo_add]
  rcases (by omega : units < powerOfTwo (2044 + 53) ∨
    powerOfTwo (2044 + 53) ≤ units ∧ units < unitsLimit ∨ unitsLimit ≤ units) with
    small | ⟨low, high⟩ | large
  · -- The neighbours are too near for the limit to be reached from here.
    have near := (@roundUnits_near units 1 Nat.one_pos).1
    rw [Nat.div_one, Nat.one_mul, Nat.mul_one] at near
    have gap := powerOfTwo_le (spacing_le small)
    omega
  · have middle (h : Nat) :
        2 * (2 ^ 53 * (h * 2)) ≤ 2 * units + h * 2 ↔ 2 ^ 53 * (h * 2) ≤ units + h := by omega
    have spaced : spacing units = 2045 := spacing_eq low high (by decide)
    have gap : powerOfTwo 2045 = powerOfTwo 2044 * 2 := powerOfTwo_succ 2044
    have places : unitsLimit = 2 ^ 53 * powerOfTwo 2045 := by
      rw [limit, gap]
      ring
    rw [roundUnits_one, spaced, places, Nat.mul_le_mul_right_iff (powerOfTwo_pos 2045),
      Rounding.le_halfEven_iff (powerOfTwo_pos 2045) (by decide : 2 ^ 53 % 2 = 0), gap]
    exact middle (powerOfTwo 2044)
  · have ne : units ≠ 0 := by omega
    have above : 2098 ≤ units.log2 := (powerOfTwo_le_iff ne).mp large
    obtain ⟨exponent, log⟩ : ∃ exponent, units.log2 = exponent + 52 :=
      ⟨units.log2 - 52, by omega⟩
    rw [log] at above
    have low : powerOfTwo (exponent + 52) ≤ units := (powerOfTwo_le_iff ne).mpr (by omega)
    have high : units < powerOfTwo (exponent + 53) := (lt_powerOfTwo_iff ne).mpr (by omega)
    have spaced : spacing units = exponent := spacing_eq low high (by omega)
    -- The result has at least the same logarithm.
    have whole : powerOfTwo 52 ≤ units / powerOfTwo exponent := by
      rw [Nat.le_div_iff_mul_le (powerOfTwo_pos exponent), ← powerOfTwo_add, Nat.add_comm]
      exact low
    have reached : unitsLimit ≤ roundUnits units 1 := by
      rw [roundUnits_one, spaced]
      calc unitsLimit ≤ powerOfTwo (exponent + 52) := powerOfTwo_le above
        _ = powerOfTwo 52 * powerOfTwo exponent := by rw [Nat.add_comm, powerOfTwo_add]
        _ ≤ _ := Nat.mul_le_mul_right _ (whole.trans (Rounding.le_halfEven _ _))
    omega

/-- An integer has no nearest number from the middle on between the largest number of the format and
the next power of two. -/
theorem ofInt?_eq_none_iff {n : Int} :
    ofInt? n = none ↔ powerOfTwo 1024 - powerOfTwo 970 ≤ n.natAbs := by
  have limit : unitsLimit = powerOfTwo 1024 * unitsOfOne := by
    rw [unitsLimit, unitsOfOne, ← powerOfTwo_add]
  have middle : powerOfTwo 2044 = powerOfTwo 970 * unitsOfOne := by
    rw [unitsOfOne, ← powerOfTwo_add]
  have scaled : unitsLimit ≤ n.natAbs * unitsOfOne + powerOfTwo 2044 ↔
      powerOfTwo 1024 - powerOfTwo 970 ≤ n.natAbs := by
    have pos : 0 < unitsOfOne := powerOfTwo_pos 1074
    rw [limit, middle, ← Nat.add_mul, Nat.mul_le_mul_right_iff pos]
    exact Nat.sub_le_iff_le_add.symm
  rw [← scaled, ← unitsLimit_le_roundUnits_iff, ofInt?, ofInt, ofRatio, ofUnits]
  split
  case isTrue below => simp [finite?, below]
  case isFalse beyond => simpa [finite?] using beyond

end Binary64

/-! ### What conditions read -/

/-- Whether a value is made of other values. -/
def Value.IsCompound (v : Value) : Prop := (∃ vs, v = .list vs) ∨ ∃ fs, v = .object fs

/-- Whether a value is an integer that is too large to be compared with a binary number. -/
def Value.IsHuge (v : Value) : Prop :=
  ∃ n : Int, v = .int n ∧ powerOfTwo 1024 - powerOfTwo 970 ≤ n.natAbs

namespace Condition

/-- What a context has under the field of a condition. Null names no field. -/
def found? (c : Condition) (context : Context) : Option Value :=
  match c.field with
  | .null => none
  | v => v.name?.bind context.get?

/-- Whether a condition compares by size. -/
def ComparesSizes (c : Condition) : Prop :=
  c.operator = .text "greaterThan" ∨ c.operator = .text "lessThan"

/-- Why the evaluation of a condition fails. -/
inductive Fails (c : Condition) (context : Context) : Failure → Prop
  /-- The field has no name. -/
  | unnamable (compound : c.field.IsCompound) : Fails c context (.unhashable c.field.kindName)
  /-- One of the sides is too large to be compared. -/
  | tooLarge (named : ¬ c.field.IsCompound) (sizes : c.ComparesSizes)
      (huge : (∃ v, c.found? context = some v ∧ v.IsHuge) ∨ c.expected.IsHuge) :
      Fails c context .integerTooLarge

/-- The sides of a comparison by size that are no numbers. -/
inductive Unreadable : Option Value → Prop
  /-- There is no value. -/
  | absent : Unreadable none
  /-- There is null. -/
  | null : Unreadable (some .null)
  /-- There is a list or an object. -/
  | compound {v : Value} (compound : v.IsCompound) : Unreadable (some v)
  /-- There is a text that is not blank and writes no number. -/
  | text {s : String} (given : Text.trim s ≠ "")
      (unwritten : Binary64.ofText? (Text.trim s) = none) : Unreadable (some (.text s))

variable {c : Condition} {context : Context} {f : Failure} {v : Value} {side : Option Value}

theorem Fails.kind_eq (h : c.Fails context f) :
    (c.field.IsCompound ∧ f.kind = "TypeError") ∨
      (¬ c.field.IsCompound ∧ f.kind = "OverflowError") := by
  cases h with
  | unnamable compound => exact .inl ⟨compound, rfl⟩
  | tooLarge named => exact .inr ⟨named, rfl⟩

theorem fieldOf_of_isCompound (compound : v.IsCompound) (context : Context) :
    fieldOf v context = .error (.unhashable v.kindName) := by
  rcases compound with ⟨vs, rfl⟩ | ⟨fs, rfl⟩ <;> rfl

theorem fieldOf_eq_found? (named : ¬ c.field.IsCompound) (context : Context) :
    fieldOf c.field context = .ok (c.found? context) := by
  unfold found?
  cases field : c.field
  case list vs => exact absurd (.inl ⟨vs, field⟩) named
  case object fs => exact absurd (.inr ⟨fs, field⟩) named
  all_goals rfl

theorem isHuge_int_iff {n : Int} : (Value.int n).IsHuge ↔ Binary64.ofInt? n = none := by
  rw [Binary64.ofInt?_eq_none_iff]
  constructor
  · rintro ⟨m, same, large⟩
    cases same
    exact large
  · intro large
    exact ⟨n, rfl, large⟩

/-- A side fails to be read as a number only if it is too large. -/
theorem numberOf_eq_error_iff :
    numberOf side = .error f ↔ (∃ v, side = some v ∧ v.IsHuge) ∧ f = .integerTooLarge := by
  fun_cases numberOf side
  case case2 n x rounded => simp [isHuge_int_iff, rounded]
  case case3 n beyond => simp [isHuge_int_iff, beyond, eq_comm]
  all_goals simp_all [Value.IsHuge]

theorem numberOf_of_unreadable (h : Unreadable side) : numberOf side = .ok .nan := by
  cases h with
  | absent => rfl
  | null => rfl
  | compound compound => rcases compound with ⟨vs, rfl⟩ | ⟨fs, rfl⟩ <;> rfl
  | @text s given unwritten =>
    have read : numberOf (some (.text s)) =
        .ok (if Text.trim s = "" then .zero else (Binary64.ofText? (Text.trim s)).getD .nan) := rfl
    rw [read, if_neg given, unwritten]
    rfl

/-- A side that is not too large is read as a number. -/
theorem exists_numberOf (h : ∀ v, side = some v → ¬ v.IsHuge) : ∃ x, numberOf side = .ok x := by
  cases read : numberOf side with
  | ok x => exact ⟨x, rfl⟩
  | error f =>
    obtain ⟨⟨v, rfl, huge⟩, -⟩ := numberOf_eq_error_iff.mp read
    exact absurd huge (h v rfl)

/-! ### Evaluation -/

theorem Operator.ofValue?_eq_none (unknown : ∀ word ∈ Catalog.names words, v ≠ .text word) :
    ofValue? v = none := by
  cases v
  case text s =>
    have new : ¬ (Catalog.get? words s).isSome := by
      rw [Catalog.get?_isSome_iff]
      rintro ⟨word, mem, same⟩
      exact unknown word mem (congrArg Value.text (beq_iff_eq.mp same).symm)
    simpa [ofValue?, Value.text?] using new
  all_goals rfl

theorem Operator.exists_word {op : Operator} (named : ofValue? v = some op) :
    ∃ word, v = .text word ∧ (word, op) ∈ words := by
  cases v
  case text s => exact ⟨s, rfl, Catalog.get?_eq_some_of_mem named⟩
  all_goals cases named

/-- A comparison by size reads both sides, and what is not a number compares as neither. -/
theorem exists_compare_of_sizes {op : Operator} (sizes : op = .greaterThan ∨ op = .lessThan)
    (actual : Option Value) (expected : Value) :
    ∃ precedes : Binary64 → Binary64 → Bool,
      (compare op actual expected = do
        let x ← numberOf actual
        let y ← numberOf (some expected)
        return precedes x y) ∧
      (∀ x, precedes x .nan = false) ∧ ∀ y, precedes .nan y = false := by
  rcases sizes with rfl | rfl
  · exact ⟨fun x y => y.lt x, rfl, Binary64.nan_lt, Binary64.lt_nan⟩
  · exact ⟨fun x y => x.lt y, rfl, Binary64.lt_nan, Binary64.nan_lt⟩

/-- A comparison fails only if it is by size and one of its sides is too large. -/
theorem compare_eq_error_iff {op : Operator} {actual : Option Value} {expected : Value} :
    compare op actual expected = .error f ↔ (op = .greaterThan ∨ op = .lessThan) ∧
      ((∃ v, actual = some v ∧ v.IsHuge) ∨ expected.IsHuge) ∧ f = .integerTooLarge := by
  by_cases sizes : op = .greaterThan ∨ op = .lessThan
  · obtain ⟨precedes, eq, -⟩ := exists_compare_of_sizes sizes actual expected
    have left : numberOf actual = .error f ↔ _ := numberOf_eq_error_iff
    have right : numberOf (some expected) = .error f ↔ _ := numberOf_eq_error_iff
    simp only [Option.some.injEq, exists_eq_left'] at right
    rw [eq, and_iff_right sizes, or_and_right, ← left, ← right]
    cases read : numberOf actual with
    | error e =>
      -- The failure is the same on either side.
      have only := (numberOf_eq_error_iff.mp read).2
      simp only [bind, Except.bind, Except.error.injEq]
      constructor
      · exact .inl
      · rintro (same | failed)
        · exact same
        · rw [only, (numberOf_eq_error_iff.mp failed).2]
    | ok x => cases numberOf (some expected) <;> simp [bind, Except.bind, pure, Except.pure]
  · cases op <;> simp_all [compare]

theorem compare_of_unreadable {op : Operator} {actual : Option Value} {expected : Value}
    (sizes : op = .greaterThan ∨ op = .lessThan)
    (unreadable : (Unreadable actual ∧ ¬ expected.IsHuge) ∨
      (Unreadable (some expected) ∧ ∀ v, actual = some v → ¬ v.IsHuge)) :
    compare op actual expected = .ok false := by
  obtain ⟨precedes, eq, after, before⟩ := exists_compare_of_sizes sizes actual expected
  rw [eq]
  rcases unreadable with ⟨none, small⟩ | ⟨none, small⟩
  · obtain ⟨y, read⟩ : ∃ y, numberOf (some expected) = .ok y :=
      exists_numberOf (by simpa using small)
    rw [numberOf_of_unreadable none, read]
    exact congrArg Except.ok (before y)
  · obtain ⟨x, read⟩ := exists_numberOf small
    rw [numberOf_of_unreadable none, read]
    exact congrArg Except.ok (after x)

theorem operator_of_comparesSizes (sizes : c.ComparesSizes) :
    ∃ op, Operator.ofValue? c.operator = some op ∧ (op = .greaterThan ∨ op = .lessThan) := by
  rcases sizes with same | same
  · exact ⟨.greaterThan, by rw [same]; rfl, .inl rfl⟩
  · exact ⟨.lessThan, by rw [same]; rfl, .inr rfl⟩

theorem comparesSizes_of_operator {op : Operator} (named : Operator.ofValue? c.operator = some op)
    (sizes : op = .greaterThan ∨ op = .lessThan) : c.ComparesSizes := by
  obtain ⟨word, same, mem⟩ := Operator.exists_word named
  rw [ComparesSizes, same]
  rcases sizes with rfl | rfl
  · exact .inl (congrArg Value.text (by simpa [Operator.words] using mem))
  · exact .inr (congrArg Value.text (by simpa [Operator.words] using mem))

theorem eval_of_isCompound (compound : c.field.IsCompound) (context : Context) :
    c.eval context = .error (.unhashable c.field.kindName) := by
  rw [eval, fieldOf_of_isCompound compound]
  rfl

theorem eval_of_operator {op : Operator} (named : ¬ c.field.IsCompound)
    (known : Operator.ofValue? c.operator = some op) (context : Context) :
    c.eval context = compare op (c.found? context) c.expected := by
  rw [eval, fieldOf_eq_found? named, known]
  rfl

theorem eval_of_no_operator (named : ¬ c.field.IsCompound)
    (unknown : Operator.ofValue? c.operator = none) (context : Context) :
    c.eval context = .ok true := by
  rw [eval, fieldOf_eq_found? named, unknown]
  rfl

/-- When an evaluation fails, and with which failure. -/
theorem eval_eq_error_iff : c.eval context = .error f ↔ c.Fails context f := by
  by_cases compound : c.field.IsCompound
  · rw [eval_of_isCompound compound, Except.error.injEq]
    constructor
    · rintro rfl
      exact .unnamable compound
    · rintro (_ | named)
      · rfl
      · exact absurd compound named
  · cases known : Operator.ofValue? c.operator with
    | none =>
      rw [eval_of_no_operator compound known]
      constructor
      · nofun
      · rintro (named | ⟨-, sizes, -⟩)
        · exact absurd named compound
        · obtain ⟨op, known', -⟩ := operator_of_comparesSizes sizes
          rw [known] at known'
          cases known'
    | some op =>
      rw [eval_of_operator compound known, compare_eq_error_iff]
      constructor
      · rintro ⟨sizes, huge, rfl⟩
        exact .tooLarge compound (comparesSizes_of_operator known sizes) huge
      · rintro (named | ⟨-, sizes, huge⟩)
        · exact absurd named compound
        · obtain ⟨op', known', sized⟩ := operator_of_comparesSizes sizes
          cases known.symm.trans known'
          exact ⟨sized, huge, rfl⟩

theorem holds_object (fs : Value.Fields) (given : fs ≠ []) (context : Context) :
    holds (.object fs) context = (ofFields fs).eval context := by
  cases fs with
  | nil => exact absurd rfl given
  | cons e rest => rfl

/-- When what a value describes fails to be evaluated. -/
theorem holds_eq_error_iff : holds v context = .error f ↔
    ∃ fs, v = .object fs ∧ fs ≠ [] ∧ (ofFields fs).Fails context f := by
  cases v
  case object fs =>
    cases fs with
    | nil => simp [holds]
    | cons e rest =>
      rw [holds_object _ (List.cons_ne_nil e rest), eval_eq_error_iff]
      simp
  all_goals simp [holds]

/-- A node fails at its condition when the evaluation fails, and with the same failure. -/
theorem next_visit_eq_error_iff {σ : Type} {n : Node} (kind : n.kind = .condition)
    (settings : WorkflowSettings) (respond : Program.Responder NodeCall NodeCall.Reply σ) (s : σ) :
    ((n.visit settings context).run respond s).1.next = .error f ↔
      ∃ fs, n.option "condition" = .object fs ∧ fs ≠ [] ∧ (ofFields fs).Fails context f := by
  rw [← holds_eq_error_iff]
  simp only [Node.visit, kind, Program.run_done]
  rcases holds (n.option "condition") context with e | (_ | _) <;> simp [Node.afterCondition]

/-- **What an evaluation comes to**, for any value and in any context. It fails if and only if there
are members and either the field is a list or an object, or the comparison is by size and one of its
sides is an integer of at least `2 ^ 1024 - 2 ^ 970`. Otherwise it has a result: without members, or
with an unknown operator, the condition holds; and a comparison by size with something that is not a
number does not hold. -/
theorem holds_cases (v : Value) (context : Context) :
    (∀ f, holds v context = .error f ↔
      ∃ fs, v = .object fs ∧ fs ≠ [] ∧ (ofFields fs).Fails context f) ∧
    (∀ c : Condition, ∀ f, c.Fails context f →
      (c.field.IsCompound ∧ f.kind = "TypeError") ∨
        (¬ c.field.IsCompound ∧ f.kind = "OverflowError")) ∧
    ((∀ fs f, v = .object fs → fs ≠ [] → ¬ (ofFields fs).Fails context f) →
      ∃ b, holds v context = .ok b) ∧
    (v.truthy = false ∨ (∀ fs, v ≠ .object fs) → holds v context = .ok true) ∧
    ∀ fs, v = .object fs → ¬ (ofFields fs).field.IsCompound →
      ((∀ word ∈ Catalog.names Operator.words, (ofFields fs).operator ≠ .text word) →
        holds v context = .ok true) ∧
      ((ofFields fs).ComparesSizes →
        (Unreadable ((ofFields fs).found? context) ∧ ¬ (ofFields fs).expected.IsHuge) ∨
          (Unreadable (some (ofFields fs).expected) ∧
            ∀ w, (ofFields fs).found? context = some w → ¬ w.IsHuge) →
        holds v context = .ok false) := by
  refine ⟨fun f => holds_eq_error_iff, fun c f => Fails.kind_eq, fun sound => ?_, ?_, ?_⟩
  · cases result : holds v context with
    | ok b => exact ⟨b, rfl⟩
    | error f =>
      obtain ⟨fs, object, given, fails⟩ := holds_eq_error_iff.mp result
      exact absurd fails (sound fs f object given)
  · rintro (falsy | other)
    · exact holds_of_not_truthy falsy context
    · cases v
      case object fs => exact absurd rfl (other fs)
      all_goals rfl
  · rintro fs rfl named
    by_cases given : fs = []
    · subst given
      exact ⟨fun _ => rfl, fun sizes => by rcases sizes with same | same <;> cases same⟩
    · rw [holds_object fs given]
      refine ⟨fun unknown => eval_of_no_operator named (Operator.ofValue?_eq_none unknown) context,
        fun sizes unreadable => ?_⟩
      obtain ⟨op, known, sized⟩ := operator_of_comparesSizes sizes
      rw [eval_of_operator named known]
      exact compare_of_unreadable sized unreadable

end Condition

end Fulfilment
