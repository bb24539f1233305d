import Fulfilment.Proofs.Written

/-!
# The check of the total

A review holds the total of an order against its lines: the prices of all pieces are added up in
decimal arithmetic, from the first line to the last. As long as each step is representable, nothing
is rounded on the way, however many lines there are and in whatever forms their prices are written.
Then the check notes exactly whether the difference is larger than the tolerance as it is written:
a difference that is equal to it is tolerated, and the order of the lines does not matter.

A total that does not match is worth noting, but is no error.

## Main definitions

* `Line.value`, `Order.linesValue` - the exact prices of a line and of all lines
* `Order.IsExact` - whether each step from the lines to the difference is representable
* `Binary64.IsExceededBy` - the comparison with a tolerance as it is written
* `Review.NotesMismatch` - whether a review warns about the total

## Main results

* `Order.calculatedTotal_exact` - the sum over the lines is not rounded
* `Decimal.exceeds_iff` - a decimal number is compared with what a binary number writes
* `Validation.totalWarning_exact` - the check of the total
* `Validation.review_total_exact` - the check of the total in a review
-/

namespace Fulfilment

open Decimal

/-! ### The sum over the lines -/

namespace Quantity

variable {q : Quantity} {n : Int}

/-- The factor of a price is the number of pieces. -/
theorem pieces_of_factor (factor : q.factor = .ok n) : q.pieces = n := by
  obtain m | v := q
  · exact Except.ok.inj factor
  · cases v <;> first | exact Except.ok.inj factor | cases factor

end Quantity

/-- The exact price of all pieces of a line. -/
def Line.value (l : Line) : ℚ := l.quantity.pieces * l.unitPrice.value

/-- The exact price of all lines. -/
def Order.linesValue (o : Order) : ℚ := (o.lines.map Line.value).sum

/-- Whether an order is filled in with what its checks expect, and each step from its lines to the
difference from its total is representable: the price of each line, the sums from the first line
on, and the difference. -/
structure Order.IsExact (o : Order) : Prop where
  name : o.customerName.IsTextual
  email : o.customerEmail.IsTextual
  quantities : ∀ l ∈ o.lines, ∃ n, l.quantity.factor = .ok n
  prices : ∀ l ∈ o.lines, l.unitPrice.IsFinite
  total : ∃ d, o.total = .decimal d ∧ d.IsFinite
  subtotals : ∀ l ∈ o.lines, IsRepresentable l.value
  sums : ∀ k, IsRepresentable ((o.lines.take k).map Line.value).sum
  difference : IsRepresentable (o.linesValue - o.total.value)

variable {l : Line} {ls : List Line} {o : Order} {x : Decimal} {q : ℚ}

theorem Failure.isExactly_ofSignal {result : Except Signal Decimal} (exact : IsExactly result q) :
    IsExactly (Failure.ofSignal result) q := by
  obtain ⟨x, rfl, finite, value⟩ := exact
  exact ⟨x, rfl, finite, value⟩

theorem Line.subtotal_exact (quantity : ∃ n, l.quantity.factor = .ok n)
    (price : l.unitPrice.IsFinite) (fits : IsRepresentable l.value) :
    IsExactly l.subtotal l.value := by
  obtain ⟨n, factor⟩ := quantity
  rw [Line.value, Quantity.pieces_of_factor factor] at fits ⊢
  rw [Line.subtotal, factor]
  exact Failure.isExactly_ofSignal (mul?_exact price fits)

/-- Prices are added without rounding as long as each sum is representable. -/
theorem Line.sum_exact (finite : x.IsFinite) (each : ∀ l ∈ ls, IsExactly l.subtotal l.value)
    (sums : ∀ k, IsRepresentable (x.value + ((ls.take k).map Line.value).sum)) :
    IsExactly (ls.foldlM (fun sum l => do Failure.ofSignal (sum.add? (← l.subtotal))) x)
      (x.value + (ls.map Line.value).sum) := by
  induction ls generalizing x with
  | nil => exact ⟨x, rfl, finite, by simp⟩
  | cons l ls ih =>
    obtain ⟨d, subtotal, finite', value⟩ := each l List.mem_cons_self
    have first : IsRepresentable (x.value + d.value) := by simpa [value] using sums 1
    obtain ⟨sum, added, finite'', value'⟩ := add?_exact finite finite' first
    -- The sums from here on are sums of all lines, with one line more.
    have others : ∀ k, IsRepresentable (sum.value + ((ls.take k).map Line.value).sum) := by
      intro k
      simpa [value', value, add_assoc] using sums (k + 1)
    have rest := @ih sum finite'' (fun l mem => each l (List.mem_cons_of_mem _ mem)) others
    rw [List.foldlM_cons, subtotal]
    simp only [bind, Except.bind, added, Failure.ofSignal] at rest ⊢
    rwa [List.map_cons, List.sum_cons, ← add_assoc, ← value, ← value']

namespace Order

theorem calculatedTotal_exact (exact : o.IsExact) : IsExactly o.calculatedTotal o.linesValue := by
  have zero : Decimal.zero.value = 0 := by simp [Decimal.zero, value_finite, signed]
  have sum := @Line.sum_exact o.lines Decimal.zero trivial
    (fun l mem => Line.subtotal_exact (exact.quantities l mem) (exact.prices l mem)
      (exact.subtotals l mem))
    (by simpa [zero] using exact.sums)
  rwa [zero, zero_add] at sum

/-- The exact price does not depend on the order of the lines. -/
theorem linesValue_perm {lines : List Line} (perm : lines.Perm o.lines) :
    { o with lines }.linesValue = o.linesValue :=
  (perm.map Line.value).sum_eq

end Order

/-! ### The tolerance -/

namespace Binary64

/-- Whether a number is above a tolerance, of which the text counts. Nothing is above infinity, and
everything is above its negative. -/
def IsExceededBy (tolerance : Binary64) (q : ℚ) : Prop :=
  match tolerance with
  | .nan => False
  | .infinite negative => negative = true
  | .finite _ _ => tolerance.writtenValue < q

instance (tolerance : Binary64) (q : ℚ) : Decidable (tolerance.IsExceededBy q) :=
  match tolerance with
  | .nan => inferInstanceAs (Decidable False)
  | .infinite negative => inferInstanceAs (Decidable (negative = true))
  | .finite s u => inferInstanceAs (Decidable ((finite s u).writtenValue < q))

theorem isExceededBy_iff {tolerance : Binary64} (finite : tolerance.finite?.isSome = true) :
    tolerance.IsExceededBy q ↔ tolerance.writtenValue < q := by
  cases tolerance with
  | nan => cases finite
  | infinite => cases finite
  | finite => exact Iff.rfl

end Binary64

/-- A finite number is compared with the number that the text of a tolerance writes. -/
theorem Decimal.exceeds_iff {tolerance : Binary64} (number : tolerance.IsNumber)
    (finite : x.IsFinite) :
    ∃ bound order, ofText tolerance.text = .ok bound ∧ x.compare? bound = .ok order ∧
      (order = .gt ↔ tolerance.IsExceededBy x.value) := by
  cases tolerance with
  | nan => exact absurd rfl number.ne_nan
  | infinite negative =>
    refine ⟨_, if negative then .gt else .lt, Binary64.ofText_text_infinite negative, ?_, ?_⟩
    · cases x <;> first | rfl | cases finite
    · cases negative <;> simp [Binary64.IsExceededBy]
  | finite s u =>
    obtain ⟨bound, read, finite', value⟩ := ofText_text s (number.lt_limit s u rfl)
    obtain ⟨order, compared, gt⟩ := compare?_eq_gt_iff finite finite'
    rw [value] at gt
    exact ⟨bound, order, read, compared, gt⟩

/-! ### The warning -/

namespace Validation

variable {σ : Type} {tolerance : Binary64} {settings : OrderSettings} {checked : Review}
  {replies : List Reply} {factor : Binary64} {stock : Review}

/-- The warning that a total does not match the sum over the lines. -/
def mismatch (calculated : Decimal) (total : Total) : String :=
  "Calculated total (" ++ calculated.text ++ ") does not match order total (" ++ total.text ++ ")"

/-- A remark on the stock of a product. -/
def IsStockRemark (w : String) : Prop := ∃ name, w = "Stock is low for " ++ name

theorem not_isStockRemark_mismatch (calculated : Decimal) (total : Total) :
    ¬ IsStockRemark (mismatch calculated total) := by
  unfold mismatch
  rintro ⟨name, same⟩
  have first := congrArg (fun w => w.toList.head?) same
  simp at first

/-- The check of the total warns if and only if the exact difference exceeds the tolerance. -/
theorem totalWarning_exact (exact : o.IsExact) (number : tolerance.IsNumber) :
    ∃ calculated, o.calculatedTotal = .ok calculated ∧ calculated.IsFinite ∧
      calculated.value = o.linesValue ∧
      totalWarning tolerance o =
        .ok (listed (tolerance.IsExceededBy |o.linesValue - o.total.value|)
          (mismatch calculated o.total)) := by
  obtain ⟨calculated, summed, finite, value⟩ := Order.calculatedTotal_exact exact
  obtain ⟨total, same, finite'⟩ := exact.total
  have fits := exact.difference
  rw [same, Total.value, ← value] at fits
  obtain ⟨difference, subtracted, finite'', value'⟩ := sub?_exact finite finite' fits
  obtain ⟨distance, taken, finite''', value''⟩ := abs?_exact finite'' (value' ▸ fits)
  obtain ⟨bound, order, read, compared, gt⟩ := exceeds_iff number finite'''
  refine ⟨calculated, summed, finite, value, ?_⟩
  rw [value'', value', value] at gt
  -- No step fails, so that the comparison decides.
  have warned : totalWarning tolerance o =
      .ok (if order = .gt then [mismatch calculated o.total] else []) := by
    unfold mismatch
    simp only [totalWarning, summed, read, same, Total.subtrahend_decimal, subtracted, taken,
      compared, Failure.ofSignal, bind, Except.bind, pure, Except.pure]
  rw [warned, listed, same, Total.value]
  exact congrArg Except.ok (if_congr gt rfl rfl)

/-! ### The review -/

/-- What is noted when a line is held against the stock is about the stock. -/
theorem isStockRemark_of_held {reply : Reply} {r : Review} (found : held factor l reply = .ok r) :
    ∀ w ∈ r.warnings, IsStockRemark w := by
  rcases reply with f | (_ | p | v)
  · cases found
  · cases found
    nofun
  · have found : stockFinding factor l p = .ok r := found
    obtain ⟨short, -, rest⟩ := Failure.bind_eq_ok_iff.mp found
    cases short with
    | true =>
      cases rest
      nofun
    | false =>
      obtain ⟨reserve, -, rest⟩ := Failure.bind_eq_ok_iff.mp rest
      obtain ⟨low, -, rest⟩ := Failure.bind_eq_ok_iff.mp rest
      cases rest
      intro w mem
      dsimp only at mem
      split at mem
      · exact ⟨_, List.mem_singleton.mp mem⟩
      · cases mem
  · cases found

/-- What is noted when lines are held against the stock is about the stock. -/
theorem isStockRemark_of_inspection {a : Except Failure Review}
    (h : Inspection factor ls replies a) (found : a = .ok stock) :
    ∀ w ∈ stock.warnings, IsStockRemark w := by
  induction h generalizing stock with
  | done =>
    cases found
    nofun
  | stuck => cases found
  | @next l ls reply replies r a first others ih =>
    cases a with
    | error f => cases found
    | ok rest =>
      cases found
      intro w mem
      rcases List.mem_append.mp mem with mem | mem
      · exact isStockRemark_of_held first w mem
      · exact ih rfl w mem

section Review

variable {respond : Program.Responder StoreCall StoreCall.Reply σ} {s : σ} {id : Value}

/-- An order whose steps are representable is examined, and of the warnings only the one about the
total is found in it. -/
theorem examine_exact (exact : o.IsExact) (number : settings.totalTolerance.IsNumber) :
    ∃ calculated, o.calculatedTotal = .ok calculated ∧ calculated.IsFinite ∧
      calculated.value = o.linesValue ∧
      examine settings o = .ok ⟨o.defects,
        listed (settings.totalTolerance.IsExceededBy |o.linesValue - o.total.value|)
          (mismatch calculated o.total)⟩ := by
  obtain ⟨calculated, summed, finite, value, warned⟩ := totalWarning_exact exact number
  exact ⟨calculated, summed, finite, value,
    examine_of_totalWarning exact.name exact.email exact.prices exact.total warned⟩

/-- The warnings of a review are those about the order, and those about the stock, if any are kept.
-/
theorem warnings_of_examined (answered : (respond (.find id) s).1 = .ok (.entry o))
    (examined : examine settings o = .ok checked) :
    ∃ remarks, ((review settings id).run respond s).1.warnings = checked.warnings ++ remarks ∧
      ∀ w ∈ remarks, IsStockRemark w := by
  obtain ⟨-, a, inspection, ended, ended'⟩ := review_of_examined answered examined
  cases a with
  -- Of a stock check that fails, nothing is kept.
  | error f => exact ⟨[], by rw [ended f rfl]; exact (List.append_nil _).symm, nofun⟩
  | ok stock =>
    have remarks := isStockRemark_of_inspection inspection rfl
    exact ⟨stock.warnings, by rw [ended' stock rfl]; rfl, remarks⟩

/-- The errors of a review do not depend on what an order is warned of. -/
theorem errors_of_examined {settings' : OrderSettings} {errors noted noted' : List String}
    (answered : (respond (.find id) s).1 = .ok (.entry o))
    (factor : settings'.lowStockFactor = settings.lowStockFactor)
    (examined : examine settings o = .ok ⟨errors, noted⟩)
    (examined' : examine settings' o = .ok ⟨errors, noted'⟩) :
    ((review settings' id).run respond s).1.errors =
      ((review settings id).run respond s).1.errors := by
  -- Once an order is examined, the settings are asked for nothing but the factor.
  simp only [review, Program.run, answered, examined, examined', Program.run_map, factor]
  cases ((checkStock settings.lowStockFactor o.lines).run respond (respond (.find id) s).2).1 <;>
    rfl

end Review

end Validation

/-- Whether a review warns that the total of an order does not match its lines. -/
def Review.NotesMismatch (r : Review) (o : Order) : Prop :=
  ∃ calculated, Validation.mismatch calculated o.total ∈ r.warnings

namespace Validation

variable {σ : Type} {respond : Program.Responder StoreCall StoreCall.Reply σ} {s : σ} {id : Value}
  {settings : OrderSettings}

/-- A review warns about the total if and only if the exact difference exceeds the tolerance. -/
theorem notesMismatch_iff (answered : (respond (.find id) s).1 = .ok (.entry o))
    (exact : o.IsExact) (number : settings.totalTolerance.IsNumber) :
    ((review settings id).run respond s).1.NotesMismatch o ↔
      settings.totalTolerance.IsExceededBy |o.linesValue - o.total.value| := by
  obtain ⟨calculated, -, -, -, examined⟩ := examine_exact exact number
  obtain ⟨remarks, warnings, stock⟩ := warnings_of_examined answered examined
  rw [Review.NotesMismatch, warnings]
  constructor
  · rintro ⟨calculated', mem⟩
    rcases List.mem_append.mp mem with mem | mem
    · by_contra tolerated
      rw [listed_eq_nil.mpr tolerated] at mem
      cases mem
    · -- A remark on the stock does not read like this warning.
      exact absurd (stock _ mem) (not_isStockRemark_mismatch _ _)
  · intro exceeded
    refine ⟨calculated, List.mem_append_left _ ?_⟩
    rw [listed, if_pos exceeded]
    exact List.mem_singleton_self _

/-- **The check of the total.** A review warns that the total of an order does not match its lines
if and only if the exact difference is greater than what the text of the tolerance writes, provided
that each step from the lines to the difference is representable. The warning stands before all that
is noted about the stock, and tells the exact sum. The order of the lines does not matter for it, as
long as the steps are representable. Whatever the tolerance is, the errors are the same. -/
theorem review_total_exact (respond : Program.Responder StoreCall StoreCall.Reply σ) (s : σ)
    (settings : OrderSettings) (id : Value)
    (answered : (respond (.find id) s).1 = .ok (.entry o)) (exact : o.IsExact)
    (number : settings.totalTolerance.IsNumber) :
    let result := ((review settings id).run respond s).1
    (result.NotesMismatch o ↔
      settings.totalTolerance.IsExceededBy |o.linesValue - o.total.value|) ∧
    (∃ calculated remarks, o.calculatedTotal = .ok calculated ∧ calculated.IsFinite ∧
      calculated.value = o.linesValue ∧
      result.warnings =
        listed (settings.totalTolerance.IsExceededBy |o.linesValue - o.total.value|)
          (mismatch calculated o.total) ++ remarks ∧
      ∀ w ∈ remarks, IsStockRemark w) ∧
    (∀ (τ : Type) (respond' : Program.Responder StoreCall StoreCall.Reply τ) (t : τ) (id' : Value)
      (lines : List Line), lines.Perm o.lines → { o with lines }.IsExact →
      (respond' (.find id') t).1 = .ok (.entry { o with lines }) →
      (((review settings id').run respond' t).1.NotesMismatch { o with lines } ↔
        result.NotesMismatch o)) ∧
    ∀ tolerance : Binary64, tolerance.IsNumber →
      ((review { settings with totalTolerance := tolerance } id).run respond s).1.errors =
        result.errors := by
  intro result
  obtain ⟨calculated, summed, finite, value, examined⟩ := examine_exact exact number
  obtain ⟨remarks, warnings, stock⟩ := warnings_of_examined answered examined
  refine ⟨notesMismatch_iff answered exact number,
    ⟨calculated, remarks, summed, finite, value, warnings, stock⟩, ?_, ?_⟩
  · intro τ respond' t id' lines perm exact' answered'
    rw [notesMismatch_iff answered' exact' number, notesMismatch_iff answered exact number,
      Order.linesValue_perm perm]
  · intro tolerance number'
    obtain ⟨calculated', -, -, -, examined'⟩ :=
      @examine_exact o { settings with totalTolerance := tolerance } exact number'
    exact errors_of_examined answered rfl examined examined'

end Validation

/-- An order of two lines for 60.97 in all, with a total of hundredths. -/
def Order.reckoned (hundredths : Nat) : Order where
  id := "order-1"
  customerName := "Mona Reyes"
  customerEmail := "mona@example.com"
  lines := [⟨"p-1", "Desk Lamp", .count 3, .finite false 1999 (-2)⟩,
    ⟨"p-2", "Pen", .count 2, .finite false 5 (-1)⟩]
  total := .decimal (.finite false hundredths (-2))

/-- A store with this order. -/
def MemoryStore.reckoned (hundredths : Nat) : MemoryStore where
  orders := [(.text "order-1", Order.reckoned hundredths)]
  products := [(.text "p-1", ⟨"p-1", "Desk Lamp", .count 4⟩),
    (.text "p-2", ⟨"p-2", "Pen", .count 9⟩)]

theorem Decimal.isRepresentable_hundredths {n : Int} (small : n.natAbs < powerOfTen 28) :
    IsRepresentable ((n : ℚ) / 100) := by
  have digits : Text.digitCount n.natAbs ≤ precision :=
    (Text.digitCount_le_iff (by decide)).mpr small
  refine ⟨n, -2, by norm_num [div_eq_mul_inv], digits, by decide, ?_⟩
  simp only [precision, maxExponent] at digits ⊢
  omega

section Reckoned

variable {hundredths : Nat}

theorem Order.values_reckoned :
    (reckoned hundredths).lines.map Line.value = [5997 / 100, 100 / 100] := by
  simp [reckoned, Line.value, value_finite, signed]
  norm_num

theorem Order.difference_reckoned :
    (reckoned hundredths).linesValue - (reckoned hundredths).total.value =
      ((6097 - hundredths : Int) : ℚ) / 100 := by
  rw [linesValue, values_reckoned]
  simp [reckoned, Total.value, value_finite, signed]
  ring

theorem Order.isExact_reckoned (small : hundredths < 10000) :
    (reckoned hundredths).IsExact where
  name := .inr ⟨_, rfl⟩
  email := .inr ⟨_, rfl⟩
  quantities := by simp [reckoned]
  prices := by simp [reckoned, Decimal.IsFinite]
  total := ⟨_, rfl, trivial⟩
  subtotals l mem := by
    have value : l.value ∈ (reckoned hundredths).lines.map Line.value := List.mem_map_of_mem mem
    rw [values_reckoned] at value
    rcases List.mem_pair.mp value with same | same
    · rw [same]
      exact isRepresentable_hundredths (n := 5997) (by decide)
    · rw [same]
      exact isRepresentable_hundredths (n := 100) (by decide)
  sums k := by
    rw [List.map_take, values_reckoned]
    rcases k with _ | _ | k
    · exact isRepresentable_zero
    · simpa using isRepresentable_hundredths (n := 5997) (by decide)
    · have whole : [5997 / 100, 100 / 100].sum = ((6097 : Int) : ℚ) / 100 := by norm_num
      rw [List.take_of_length_le (by simp), whole]
      exact isRepresentable_hundredths (by decide)
  difference := by
    rw [difference_reckoned]
    have : 10000 < powerOfTen 28 := by decide
    exact isRepresentable_hundredths (by omega)

end Reckoned

/-- The text of a tolerance counts: three tenths are tolerated, though the binary number next to
them is less. One hundredth more is noted, and the order is found fit all the same. -/
theorem Validation.review_total_exact_sample :
    let settings : OrderSettings := { totalTolerance := .ofScientific false 3 (-1) }
    let result (hundredths : Nat) :=
      ((review settings "order-1").run (MemoryStore.respond default) (.reckoned hundredths)).1
    ¬ (result 6067).NotesMismatch (.reckoned 6067) ∧
    (result 6066).NotesMismatch (.reckoned 6066) ∧
    (result 6066).isValid = true := by
  intro settings result
  have number : settings.totalTolerance.IsNumber := by
    dsimp only [settings]
    exact Binary64.isNumber_ofScientific false 3 (-1)
  have form : settings.totalTolerance.writtenForm = (3, -1) := by decide +kernel
  have written : settings.totalTolerance.writtenValue = 3 / 10 := by
    rw [Binary64.writtenValue, form]
    norm_num
  have exceeded (q : ℚ) : settings.totalTolerance.IsExceededBy q ↔ 3 / 10 < q := by
    rw [← written]
    exact Binary64.isExceededBy_iff (by decide +kernel)
  have exact {hundredths : Nat} (small : hundredths < 10000) :=
    review_total_exact (MemoryStore.respond default) (.reckoned hundredths) settings "order-1"
      rfl (Order.isExact_reckoned small) number
  have distance (hundredths : Nat) :
      |(Order.reckoned hundredths).linesValue - (Order.reckoned hundredths).total.value| =
        |((6097 - hundredths : Int) : ℚ) / 100| := congrArg abs Order.difference_reckoned
  refine ⟨?_, ?_, ?_⟩
  · rw [(exact (by decide)).1, exceeded, distance]
    norm_num
  · rw [(exact (by decide)).1, exceeded, distance]
    norm_num
  · decide +kernel

end Fulfilment
