import Fulfilment.Proofs.Amounts
import Fulfilment.Proofs.Fitness
import Fulfilment.Proofs.Particulars

/-!
# What a review finds

A review makes every check, and says at once all that is wrong. What it should say is written down
here without the checks: the errors of an order are a list with an entry for each defect, in the
order in which the order is read, and the warnings follow the same lines. A review that comes to its
end says exactly this.

A review does not come to its end if a call fails, or if something is compared or computed that
cannot be. Then it says nothing but that, and of the warnings only the one about the total is kept:
those about the stock are handed over when all lines have been looked at, and so are lost.

## Main definitions

* `Decimal.value`, `Quantity.pieces` - the numbers that are compared
* `Order.defects`, `Validation.stockDefects` - what is wrong with an order
* `Validation.stockRemarks` - what is worth noting about the stock
* `Order.IsSound` - whether nothing is wrong with an order
* `Order.IsPlain` - whether an order is filled in with what its checks expect
* `Validation.Inspection` - how far the lines of an order are held against the stock

## Main results

* `Decimal.nonPositive?_finite` - finite numbers are compared by their values
* `Binary64.ofInt?_of_lt` - which integers have a nearest number
* `Validation.examine_eq`, `Validation.held_eq` - the checks find the defects
* `Validation.Inspection.of_ok`, `Validation.Inspection.of_error` - what comes of the lines
* `Validation.reads_review` - a review only reads
* `Validation.review_exact` - what a review finds
-/

namespace Fulfilment

/-! ### The numbers that are compared -/

namespace Decimal

/-- The exact value of a finite number. -/
def value : Decimal → Rat
  | .finite s c e => mkRat (signed s (c * powerOfTen e.toNat)) (powerOfTen (-e).toNat)
  | _ => 0

/-- Whether a number is finite. -/
def IsFinite : Decimal → Prop
  | .finite .. => True
  | _ => False

variable {s : Bool} {c : Nat} {e : Int} {x : Decimal}

theorem value_nonpos_iff : (finite s c e).value ≤ 0 ↔ signed s c ≤ 0 := by
  have den : (0 : Int) < powerOfTen (-e).toNat := mod_cast powerOfTen_pos _
  have num : 0 < powerOfTen e.toNat := powerOfTen_pos _
  rw [value, ← Rat.neg_le_neg_iff, Rat.neg_zero, Rat.neg_mkRat, ← Rat.divInt_ofNat,
    Rat.divInt_nonneg_iff_of_pos_right den]
  -- Both powers are positive, so that the sign is that of the coefficient.
  cases s <;> simp only [signed, Bool.false_eq_true, if_false, if_true]
  · have same : c * powerOfTen e.toNat = 0 ↔ c = 0 := by simp [num.ne']
    omega
  · omega

/-- Finite numbers are compared by their values. -/
theorem nonPositive?_finite (finite : x.IsFinite) :
    x.nonPositive? = .ok (decide (x.value ≤ 0)) := by
  obtain ⟨s, c, e⟩ | _ | _ := x
  case infinite => cases finite
  case nan => cases finite
  have order : (Decimal.finite s c e).nonPositive? =
      .ok (compareFinite s c e false 0 0 != .gt) := rfl
  rw [order]
  congr 1
  rw [Bool.eq_iff_iff, decide_eq_true_iff, value_nonpos_iff]
  -- A zero is at most zero even with a sign.
  cases s <;> by_cases zero : c = 0 <;>
    simp [compareFinite, compareMagnitude, signed, zero, Nat.compare_eq_gt, Nat.pos_iff_ne_zero]

end Decimal

/-- The integers below `2 ^ 1000` in magnitude have a nearest number of the format. -/
theorem Binary64.ofInt?_of_lt {n : Int} (small : n.natAbs < powerOfTwo 1000) :
    ofInt? n = some (ofInt n) := by
  have units : n.natAbs * unitsOfOne < powerOfTwo (2021 + 53) := by
    have bound : powerOfTwo (2021 + 53) = powerOfTwo 1000 * powerOfTwo 1074 := by
      rw [← powerOfTwo_add]
    rw [bound, unitsOfOne]
    exact (Nat.mul_lt_mul_right (powerOfTwo_pos 1074)).mpr small
  have near := (@roundUnits_near (n.natAbs * unitsOfOne) 1 Nat.one_pos).1
  rw [Nat.div_one, Nat.one_mul, Nat.mul_one] at near
  have gap := powerOfTwo_le ((spacing_le units).trans (Nat.le_add_right 2021 53))
  have limit : powerOfTwo (2021 + 53) * 2 ≤ unitsLimit := by
    rw [← powerOfTwo_succ]
    exact powerOfTwo_le (by decide)
  have finite : roundUnits (n.natAbs * unitsOfOne) 1 < unitsLimit := by
    -- The powers are too large to be looked at as numbers.
    generalize powerOfTwo (2021 + 53) = bound at units gap limit
    generalize powerOfTwo (spacing (n.natAbs * unitsOfOne)) = g at near gap
    omega
  rw [ofInt?, ofInt, ofRatio, ofUnits_of_lt finite, finite?]

namespace Quantity

/-- How many pieces a quantity is, and none for what is no number of pieces. -/
def pieces (q : Quantity) : Int := q.number?.getD 0

@[simp] theorem pieces_count (n : Int) : (count n).pieces = n := rfl

variable {q : Quantity}

/-- What can be multiplied by a price is a number of pieces. -/
theorem number_of_factor {n : Int} (factor : q.factor = .ok n) :
    q.document.number? = some (.inl q.pieces) := by
  obtain n | v := q
  · rfl
  · cases v <;> first | rfl | cases factor

theorem times_of_real {m : Int ⊕ Binary64} {x : Binary64} (factor : Binary64)
    (number : q.document.number? = some m) (real : realOf? m = some x) :
    q.times factor = .ok (x.mul factor) := by
  simp only [times, number, real]

end Quantity

namespace Product

variable {p : Product} {m : Int} {n : Int ⊕ Binary64}

/-- Whether the stock of a product is a number below another. -/
def IsBelow (p : Product) (n : Int ⊕ Binary64) : Prop :=
  p.stock.document.number?.any (Value.numberPrecedes · n) = true

instance : Decidable (p.IsBelow n) := inferInstanceAs (Decidable (_ = true))

theorem isBelow_count (stock : p.stock = .count m) :
    p.IsBelow n ↔ Value.numberPrecedes (.inl m) n = true := by
  rw [IsBelow, stock]
  rfl

/-- The stock comes before a number if it is below it. -/
theorem precedes_stock {v : Value} (stock : p.stock.document.number?.isSome = true)
    (number : v.number? = some n) : p.stock.document.precedes v = .ok (decide (p.IsBelow n)) := by
  obtain ⟨m, stock⟩ := Option.isSome_iff_exists.mp stock
  rw [Value.precedes_number stock number]
  simp [IsBelow, stock]

end Product

/-! ### What is wrong with an order -/

/-- A text that is said in a certain case. -/
def listed (p : Prop) [Decidable p] (text : String) : List String := if p then [text] else []

@[simp] theorem listed_eq_nil {p : Prop} [Decidable p] {text : String} :
    listed p text = [] ↔ ¬ p := by
  simp [listed]

/-- The total of an order in numbers. What is no decimal number has none. -/
def Total.value : Total → Rat
  | decimal d => d.value
  | other _ => 0

/-- What is wrong with a line by itself: that no piece is ordered, or that it has no price. -/
def Line.defects (l : Line) : List String :=
  listed (l.quantity.pieces ≤ 0) ("Invalid quantity for product " ++ l.productName.plain) ++
    listed (l.unitPrice.value ≤ 0) ("Invalid price for product " ++ l.productName.plain)

/-- What is wrong with an order by itself: with the customer, with the lines, and with the total. -/
def Order.defects (o : Order) : List String :=
  listed (¬ o.customerName.IsName) "Customer name is required" ++
    listed (¬ o.customerEmail.IsAddress) "Customer email is invalid" ++
    (listed (o.lines = []) "Order must contain at least one product" ++
      o.lines.flatMap Line.defects) ++
    listed (o.total.value ≤ 0) "Order total must be greater than 0"

/-- Whether an order is filled in with what its checks expect: texts, or nothing, for the customer,
and finite numbers, of which those of pieces are not too large for a binary number. -/
structure Order.IsPlain (o : Order) : Prop where
  name : o.customerName.IsTextual
  email : o.customerEmail.IsTextual
  quantities : ∀ l ∈ o.lines, l.quantity.pieces.natAbs < powerOfTwo 1000
  prices : ∀ l ∈ o.lines, l.unitPrice.IsFinite
  total : ∃ d, o.total = .decimal d ∧ d.IsFinite

namespace Validation

/-- What the store replies when it is asked for a product. -/
abbrev Reply := Except Failure (Found Product)

variable {l : Line} {p : Product} {reply : Reply} {factor : Binary64}

/-- Whether the stock of a product is below the quantity of a line. -/
def IsShort (l : Line) (p : Product) : Prop := p.IsBelow (.inl l.quantity.pieces)

/-- Whether the stock of a product is below the quantity of a line times a factor. -/
def IsScarce (factor : Binary64) (l : Line) (p : Product) : Prop :=
  p.IsBelow (.inr ((Binary64.ofInt l.quantity.pieces).mul factor))

instance : Decidable (IsShort l p) := inferInstanceAs (Decidable (p.IsBelow _))

instance : Decidable (IsScarce factor l p) := inferInstanceAs (Decidable (p.IsBelow _))

/-- Whole numbers of pieces are compared as integers. -/
theorem isShort_count {m n : Int} (stock : p.stock = .count m) (quantity : l.quantity = .count n) :
    IsShort l p ↔ m < n := by
  rw [IsShort, Product.isBelow_count stock, quantity, Quantity.pieces_count]
  exact decide_eq_true_iff

/-- What is wrong with the stock for a line. -/
def stockDefects (l : Line) : Reply → List String
  | .ok .nothing => ["Product " ++ l.productName.plain ++ " not found"]
  | .ok (.entry p) =>
    listed (IsShort l p) ("Insufficient stock for " ++ p.name.plain ++ ". Available: " ++
      p.stock.text ++ ", requested: " ++ l.quantity.text)
  | _ => []

/-- What is worth noting about the stock for a line. -/
def stockRemarks (factor : Binary64) (l : Line) : Reply → List String
  | .ok (.entry p) =>
    listed (¬ IsShort l p ∧ IsScarce factor l p) ("Stock is low for " ++ p.name.plain)
  | _ => []

/-- Whether a reply tells how many pieces are in stock, or that there is no such product. -/
def Reply.IsUsable : Reply → Prop
  | .ok .nothing => True
  | .ok (.entry p) => p.stock.document.number?.isSome = true
  | _ => False

instance : DecidablePred Reply.IsUsable
  | .ok .nothing => .isTrue trivial
  | .ok (.entry p) => inferInstanceAs (Decidable (p.stock.document.number?.isSome = true))
  | .ok (.other _) | .error _ => .isFalse id

end Validation

/-- Whether nothing is wrong with an order, and the stock covers each of its lines. -/
structure Order.IsSound (o : Order) (replies : List Validation.Reply) : Prop where
  name : o.customerName.IsName
  email : o.customerEmail.IsAddress
  lines : o.lines ≠ []
  each : ∀ l ∈ o.lines, 0 < l.quantity.pieces ∧ 0 < l.unitPrice.value
  total : 0 < o.total.value
  stock : ∀ e ∈ o.lines.zip replies, ∃ p, e.2 = .ok (.entry p) ∧ ¬ Validation.IsShort e.1 p

namespace Validation

variable {σ : Type} {l : Line} {ls : List Line} {p : Product} {o : Order} {reply : Reply}
  {replies : List Reply} {factor tolerance : Binary64} {settings : OrderSettings}
  {noted : List String}

/-- An order is sound if there is nothing to list. -/
theorem isSound_iff (usable : ∀ r ∈ replies, r.IsUsable) :
    o.IsSound replies ↔
      o.defects ++ (o.lines.zip replies).flatMap (fun e => stockDefects e.1 e.2) = [] := by
  -- Of a line there is nothing to list if it is covered, but only where the reply is usable.
  have covered (e) (mem : e ∈ o.lines.zip replies) :
      (∃ p, e.2 = .ok (.entry p) ∧ ¬ IsShort e.1 p) ↔ stockDefects e.1 e.2 = [] := by
    obtain ⟨l, r⟩ := e
    have answered := usable r (List.of_mem_zip mem).2
    rcases r with f | (_ | p | v)
    · cases answered
    · simp [stockDefects]
    · simp [stockDefects]
    · cases answered
  simp only [Order.defects, Line.defects, List.append_eq_nil_iff, listed_eq_nil,
    List.flatMap_eq_nil_iff, not_not, not_le]
  constructor
  · rintro ⟨name, email, lines, each, total, stock⟩
    exact ⟨⟨⟨⟨name, email⟩, lines, each⟩, total⟩, fun e mem => (covered e mem).mp (stock e mem)⟩
  · rintro ⟨⟨⟨⟨name, email⟩, lines, each⟩, total⟩, stock⟩
    exact ⟨name, email, lines, each, total, fun e mem => (covered e mem).mpr (stock e mem)⟩

/-! ### The checks of an order by itself -/

theorem customerErrors_eq (name : o.customerName.IsTextual) (email : o.customerEmail.IsTextual) :
    customerErrors o = .ok (listed (¬ o.customerName.IsName) "Customer name is required" ++
      listed (¬ o.customerEmail.IsAddress) "Customer email is invalid") := by
  simp only [customerErrors, isNameless_eq name, isAddress_eq email]
  by_cases named : o.customerName.IsName <;> by_cases address : o.customerEmail.IsAddress <;>
    simp [listed, named, address, bind, Except.bind, pure, Except.pure]

theorem lineError_eq (number : l.quantity.document.number? = some (.inl l.quantity.pieces))
    (price : l.unitPrice.IsFinite) : lineError l = .ok l.defects := by
  have noPiece : l.quantity.nonPositive = .ok (decide (l.quantity.pieces ≤ 0)) := by
    simp [Quantity.nonPositive, Value.atMost, number, Value.numberAtMost]
  simp only [lineError, noPiece, Decimal.nonPositive?_finite price, Failure.ofSignal]
  simp [Line.defects, listed, bind, Except.bind, pure, Except.pure]

theorem lineErrors_eq (each : ∀ l ∈ ls, lineError l = .ok l.defects) :
    lineErrors ls = .ok (listed (ls = []) "Order must contain at least one product" ++
      ls.flatMap Line.defects) := by
  cases ls with
  | nil => rfl
  | cons l ls =>
    rw [lineErrors, Failure.mapM_eq_map each, List.flatMap]
    · rfl
    · exact nofun

theorem totalError_eq (finite : ∃ d, o.total = .decimal d ∧ d.IsFinite) :
    totalError o =
      .ok (listed (o.total.value ≤ 0) "Order total must be greater than 0") := by
  obtain ⟨d, total, finite⟩ := finite
  simp [totalError, total, Decimal.nonPositive?_finite finite, Failure.ofSignal, Total.value,
    listed, bind, Except.bind, pure, Except.pure]

/-- Where the total of the lines can be computed, each of them orders a number of pieces. -/
theorem number_of_totalWarning (h : totalWarning tolerance o = .ok noted) :
    ∀ l ∈ o.lines, l.quantity.document.number? = some (.inl l.quantity.pieces) := by
  obtain ⟨calculated, summed, -⟩ := Failure.bind_eq_ok_iff.mp h
  unfold Order.calculatedTotal at summed
  -- The sum is taken from the first line on, so the others are added to any sum.
  generalize Decimal.zero = sum at summed
  generalize o.lines = ls at summed ⊢
  induction ls generalizing sum with
  | nil => simp
  | cons l ls ih =>
    rw [List.foldlM_cons] at summed
    obtain ⟨sum', step, rest⟩ := Failure.bind_eq_ok_iff.mp summed
    obtain ⟨subtotal, priced, -⟩ := Failure.bind_eq_ok_iff.mp step
    obtain ⟨n, factor, -⟩ := Failure.bind_eq_ok_iff.mp priced
    intro l' mem
    rcases List.mem_cons.mp mem with rfl | mem
    · exact Quantity.number_of_factor factor
    · exact ih sum' rest l' mem

/-- What is found in an order that can be checked is what is wrong with it. -/
theorem examine_of_totalWarning (name : o.customerName.IsTextual)
    (email : o.customerEmail.IsTextual) (prices : ∀ l ∈ o.lines, l.unitPrice.IsFinite)
    (finite : ∃ d, o.total = .decimal d ∧ d.IsFinite)
    (total : totalWarning settings.totalTolerance o = .ok noted) :
    examine settings o = .ok ⟨o.defects, noted⟩ := by
  have number := number_of_totalWarning total
  have lines := lineErrors_eq fun l mem => lineError_eq (number l mem) (prices l mem)
  simp only [examine, customerErrors_eq name email, lines, totalError_eq finite, total]
  rfl

theorem examine_eq (plain : o.IsPlain)
    (total : totalWarning settings.totalTolerance o = .ok noted) :
    examine settings o = .ok ⟨o.defects, noted⟩ :=
  examine_of_totalWarning plain.name plain.email plain.prices plain.total total

theorem totalWarning_of_examine {checked : Review} (h : examine settings o = .ok checked) :
    totalWarning settings.totalTolerance o = .ok checked.warnings := by
  obtain ⟨customer, -, rest⟩ := Failure.bind_eq_ok_iff.mp h
  obtain ⟨lines, -, rest⟩ := Failure.bind_eq_ok_iff.mp rest
  obtain ⟨total, -, rest⟩ := Failure.bind_eq_ok_iff.mp rest
  obtain ⟨warnings, warned, whole⟩ := Failure.bind_eq_ok_iff.mp rest
  cases whole
  exact warned

/-! ### The checks of the stock -/

/-- What is found when a line is held against what the store replies. -/
def held (factor : Binary64) (l : Line) (reply : Reply) : Except Failure Review :=
  reply >>= lineFinding factor l

/-- What is found for a line whose quantity can be compared with the stock, like its reserve. -/
theorem stockFinding_eq {reserve : Binary64} {short scarce : Prop} [Decidable short]
    [Decidable scarce] (below : p.stock.isBelow l.quantity = .ok (decide short))
    (times : l.quantity.times factor = .ok reserve)
    (low : p.stock.document.precedes (.real reserve) = .ok (decide scarce)) :
    stockFinding factor l p =
      .ok ⟨listed short ("Insufficient stock for " ++ p.name.plain ++ ". Available: " ++
          p.stock.text ++ ", requested: " ++ l.quantity.text),
        listed (¬ short ∧ scarce) ("Stock is low for " ++ p.name.plain)⟩ := by
  rw [stockFinding, below]
  by_cases h : short
  · simp [h, listed, bind, Except.bind, pure, Except.pure]
  · simp [h, times, low, listed, bind, Except.bind, pure, Except.pure]

/-- What is found for a line with a number of pieces is what is wrong with the stock for it. -/
theorem held_eq (number : l.quantity.document.number? = some (.inl l.quantity.pieces))
    (small : l.quantity.pieces.natAbs < powerOfTwo 1000) (usable : reply.IsUsable) :
    held factor l reply = .ok ⟨stockDefects l reply, stockRemarks factor l reply⟩ := by
  rcases reply with f | (_ | p | v)
  · cases usable
  · rfl
  · have below : p.stock.isBelow l.quantity = .ok (decide (IsShort l p)) :=
      Product.precedes_stock usable number
    have times := Quantity.times_of_real factor number (Binary64.ofInt?_of_lt small)
    exact stockFinding_eq below times (Product.precedes_stock usable rfl)
  · cases usable

/-- Without a usable reply, nothing is found for such a line. -/
theorem exists_failure_of_held (factor : Binary64)
    (number : l.quantity.document.number? = some (.inl l.quantity.pieces))
    (useless : ¬ reply.IsUsable) : ∃ f, held factor l reply = .error f := by
  rcases reply with f | (_ | p | v)
  · exact ⟨f, rfl⟩
  · exact absurd trivial useless
  · have none : p.stock.document.number? = none := by simpa [Reply.IsUsable] using useless
    have same : held factor l (.ok (.entry p)) = stockFinding factor l p := rfl
    rw [same, stockFinding, Quantity.isBelow, Value.precedes_of_none none number]
    exact ⟨_, rfl⟩
  · exact ⟨_, rfl⟩

/-! ### The course of a review -/

/-- The calls that ask for the products of lines, one after the other, as far as there are replies.
-/
def searches (ls : List Line) (replies : List Reply) : List ((c : StoreCall) × c.Reply) :=
  (ls.zip replies).map fun e => ⟨.product e.1.productId, e.2⟩

@[simp] theorem searches_nil : searches ls [] = [] := by simp [searches]

@[simp] theorem searches_cons : searches (l :: ls) (reply :: replies) =
    ⟨.product l.productId, reply⟩ :: searches ls replies := rfl

/-- The replies to the calls that ask for products. -/
def productReplies (es : List ((c : StoreCall) × c.Reply)) : List Reply :=
  es.filterMap fun
    | ⟨.product _, reply⟩ => some reply
    | _ => none

theorem productReplies_searches (le : replies.length ≤ ls.length) :
    productReplies (searches ls replies) = replies := by
  have same : productReplies (searches ls replies) = (ls.zip replies).map Prod.snd := by
    rw [productReplies, searches, List.filterMap_map, ← List.filterMap_eq_map]
    rfl
  rw [same, List.map_snd_zip le]

/-- What comes of holding lines against the stock, with the replies of the store on the way: the
findings for all lines, or the first failure. -/
inductive Inspection (factor : Binary64) :
    List Line → List Reply → Except Failure Review → Prop where
  /-- There is no line left. -/
  | done : Inspection factor [] [] (.ok ⟨[], []⟩)
  /-- A line cannot be held against the stock. -/
  | stuck {l : Line} {ls : List Line} {reply : Reply} {f : Failure}
      (failed : held factor l reply = .error f) : Inspection factor (l :: ls) [reply] (.error f)
  /-- A line is held against the stock, and the others follow. -/
  | next {l : Line} {ls : List Line} {reply : Reply} {replies : List Reply} {r : Review}
      {a : Except Failure Review} (found : held factor l reply = .ok r)
      (others : Inspection factor ls replies a) :
      Inspection factor (l :: ls) (reply :: replies) (a.map (combine r))

namespace Inspection

variable {a : Except Failure Review}

theorem length_le (h : Inspection factor ls replies a) : replies.length ≤ ls.length := by
  induction h with
  | done => exact Nat.le_refl 0
  | stuck failed => exact Nat.le_add_left 1 _
  | next found others ih => exact Nat.succ_le_succ ih

/-- If no line fails, all are looked at, and all that is found is put together. -/
theorem of_ok (find : Line → Reply → Review) (h : Inspection factor ls replies a)
    (each : ∀ e ∈ ls.zip replies, held factor e.1 e.2 = .ok (find e.1 e.2)) :
    replies.length = ls.length ∧
      a = .ok ⟨(ls.zip replies).flatMap fun e => (find e.1 e.2).errors,
        (ls.zip replies).flatMap fun e => (find e.1 e.2).warnings⟩ := by
  induction h with
  | done => exact ⟨rfl, rfl⟩
  | stuck failed =>
    have found := each _ List.mem_cons_self
    rw [failed] at found
    cases found
  | next found others ih =>
    obtain ⟨all, rfl⟩ := ih fun e mem => each e (List.mem_cons_of_mem _ mem)
    have first := each _ List.mem_cons_self
    rw [found] at first
    cases first
    exact ⟨congrArg (· + 1) all, rfl⟩

/-- If a line fails, nothing comes of it but this failure. -/
theorem of_error {e : Line × Reply} {f : Failure} (h : Inspection factor ls replies a)
    (mem : e ∈ ls.zip replies) (failed : held factor e.1 e.2 = .error f) : a = .error f := by
  induction h with
  | done => cases mem
  | stuck failed' =>
    rw [List.zip_cons_cons, List.zip_nil_right] at mem
    cases List.mem_singleton.mp mem
    exact congrArg Except.error (Except.error.inj (failed'.symm.trans failed))
  | next found others ih =>
    rcases List.mem_cons.mp mem with rfl | mem
    · rw [found] at failed
      cases failed
    · rw [ih mem]
      rfl

end Inspection

section Course

variable {respond : Program.Responder StoreCall StoreCall.Reply σ} {s : σ} {id : Value}
  {checked : Review} {f : Failure}

theorem inspection_of_checkStock (respond : Program.Responder StoreCall StoreCall.Reply σ) (s : σ)
    (factor : Binary64) (ls : List Line) :
    ∃ replies, (checkStock factor ls).trace respond s = searches ls replies ∧
      Inspection factor ls replies ((checkStock factor ls).run respond s).1 := by
  induction ls generalizing s with
  | nil => exact ⟨[], rfl, .done⟩
  | cons l ls ih =>
    simp only [checkStock, Program.run, Program.trace]
    generalize respond (.product l.productId) s = answer
    -- The replies end with the first that fails, or that the line cannot be held against.
    obtain ⟨f | found, t⟩ := answer
    · exact ⟨[.error f], by simp [Program.trace], .stuck rfl⟩
    · cases finding : lineFinding factor l found with
      | error f =>
        refine ⟨[.ok found], ?_, ?_⟩
        · simp [finding, Program.trace]
        · simp only [finding]
          exact .stuck finding
      | ok r =>
        obtain ⟨replies, calls, others⟩ := ih t
        refine ⟨.ok found :: replies, ?_, ?_⟩
        · simp only [finding, Program.trace_map, calls]
          rfl
        · simp only [finding, Program.run_map]
          exact .next finding others

/-- An order that cannot be examined is not held against the stock. -/
theorem review_of_unexamined (answered : (respond (.find id) s).1 = .ok (.entry o))
    (examined : examine settings o = .error f) :
    (review settings id).trace respond s = [⟨.find id, .ok (.entry o)⟩] ∧
      ((review settings id).run respond s).1 = interrupted f [] := by
  simp only [review, Program.run, Program.trace, answered, examined, and_self]

/-- What comes of an order that is examined is a matter of its lines. -/
theorem review_of_examined (answered : (respond (.find id) s).1 = .ok (.entry o))
    (examined : examine settings o = .ok checked) :
    let calls := (review settings id).trace respond s
    let result := ((review settings id).run respond s).1
    calls = ⟨.find id, .ok (.entry o)⟩ :: searches o.lines (productReplies calls) ∧
      ∃ a, Inspection settings.lowStockFactor o.lines (productReplies calls) a ∧
        (∀ f, a = .error f → result = interrupted f checked.warnings) ∧
        ∀ stock, a = .ok stock → result = combine checked stock := by
  intro calls result
  obtain ⟨replies, searched, inspection⟩ :=
    inspection_of_checkStock respond (respond (.find id) s).2 settings.lowStockFactor o.lines
  have trace : calls = ⟨.find id, .ok (.entry o)⟩ :: searches o.lines replies := by
    simp only [calls, review, Program.trace, answered, examined, Program.trace_map, searched]
  have same : productReplies calls = replies := by
    rw [trace]
    exact productReplies_searches inspection.length_le
  rw [same]
  refine ⟨trace, _, inspection, fun f stuck => ?_, fun stock found => ?_⟩
  · simp only [result, review, Program.run, answered, examined, Program.run_map, stuck]
  · simp only [result, review, Program.run, answered, examined, Program.run_map, found]

/-- What a program asks at a desk, it asks of any store. -/
theorem asked_of_atDesk {α : Type} {kind : DeskCall → Prop} {p : StoreProgram α}
    (asks : p.atDesk.Asks kind) : ∀ e ∈ p.trace respond s, kind (.store e.1) := by
  induction p generalizing s with
  | done a =>
    intro e mem
    cases List.not_mem_nil mem
  | call c next ih =>
    intro e mem
    rcases List.mem_cons.mp mem with rfl | mem
    · exact asks.1
    · exact ih _ (asks.2 _) e mem

/-- A review only reads, whatever is replied. -/
theorem reads_review :
    ∀ e ∈ (review settings id).trace respond s, DeskCall.IsRead (.store e.1) :=
  asked_of_atDesk (Processing.asks_review settings id)

/-- A line that cannot be held against the stock ends a review, whatever was found before it. -/
theorem review_of_failed {e : Line × Reply} (answered : (respond (.find id) s).1 = .ok (.entry o))
    (examined : examine settings o = .ok checked)
    (mem : e ∈ o.lines.zip (productReplies ((review settings id).trace respond s)))
    (failed : held settings.lowStockFactor e.1 e.2 = .error f) :
    ((review settings id).run respond s).1 = interrupted f checked.warnings := by
  obtain ⟨-, a, inspection, ended, -⟩ := review_of_examined answered examined
  exact ended f (inspection.of_error mem failed)

/-- A review of a plain order finds what is wrong, if all replies are usable. -/
theorem review_of_usable (answered : (respond (.find id) s).1 = .ok (.entry o)) (plain : o.IsPlain)
    (total : totalWarning settings.totalTolerance o = .ok noted)
    (usable : ∀ r ∈ productReplies ((review settings id).trace respond s), r.IsUsable) :
    let replies := productReplies ((review settings id).trace respond s)
    replies.length = o.lines.length ∧ ((review settings id).run respond s).1 =
      ⟨o.defects ++ (o.lines.zip replies).flatMap fun e => stockDefects e.1 e.2,
        noted ++ (o.lines.zip replies).flatMap
          fun e => stockRemarks settings.lowStockFactor e.1 e.2⟩ := by
  intro replies
  have number := number_of_totalWarning total
  have each : ∀ e ∈ o.lines.zip replies, held settings.lowStockFactor e.1 e.2 =
      .ok ⟨stockDefects e.1 e.2, stockRemarks settings.lowStockFactor e.1 e.2⟩ := by
    intro e mem
    obtain ⟨line, answer⟩ := List.of_mem_zip mem
    exact held_eq (number e.1 line) (plain.quantities e.1 line) (usable e.2 answer)
  obtain ⟨-, a, inspection, -, ended⟩ := review_of_examined answered (examine_eq plain total)
  obtain ⟨all, rfl⟩ :=
    Inspection.of_ok (fun l r => ⟨stockDefects l r, stockRemarks _ l r⟩) inspection each
  exact ⟨all, ended _ rfl⟩

/-- A review of a plain order ends at a reply that is not usable. -/
theorem review_of_useless (answered : (respond (.find id) s).1 = .ok (.entry o)) (plain : o.IsPlain)
    (total : totalWarning settings.totalTolerance o = .ok noted)
    (useless : ∃ r ∈ productReplies ((review settings id).trace respond s), ¬ r.IsUsable) :
    ∃ f, ((review settings id).run respond s).1 = interrupted f noted := by
  have examined := examine_eq plain total
  obtain ⟨-, a, inspection, -⟩ := review_of_examined answered examined
  obtain ⟨r, reply, useless⟩ := useless
  -- Each reply is that for a line.
  rw [← List.map_snd_zip inspection.length_le] at reply
  obtain ⟨e, mem, rfl⟩ := List.mem_map.mp reply
  have number := number_of_totalWarning total e.1 (List.of_mem_zip mem).1
  obtain ⟨f, failed⟩ := exists_failure_of_held settings.lowStockFactor number useless
  exact ⟨f, review_of_failed answered examined mem failed⟩

end Course

/-- **What a review finds.** A review only reads. Of a plain order whose total can be computed, and
if the store replies what it is asked for, it finds all defects of the order and of the stock for
its lines, in their order, and notes what is scarce; it finds the order valid if it is sound.
Otherwise there is one error alone, of the first thing that failed, and of the warnings at most the
one about the total. -/
theorem review_exact (respond : Program.Responder StoreCall StoreCall.Reply σ) (s : σ)
    (settings : OrderSettings) (id : Value) :
    let calls := (review settings id).trace respond s
    let result := ((review settings id).run respond s).1
    let replies := productReplies calls
    (∀ e ∈ calls, DeskCall.IsRead (.store e.1)) ∧
    ((∀ c t, DeskCall.IsRead (.store c) → (respond c t).2 = t) →
      ((review settings id).run respond s).2 = s) ∧
    (∀ f, (respond (.find id) s).1 = .error f →
      result = ⟨["Error validating order: " ++ f.message], []⟩) ∧
    ∀ o, (respond (.find id) s).1 = .ok (.entry o) →
      (∀ noted, o.IsPlain → totalWarning settings.totalTolerance o = .ok noted →
        ((∀ r ∈ replies, r.IsUsable) →
          calls = ⟨.find id, .ok (.entry o)⟩ :: searches o.lines replies ∧
          replies.length = o.lines.length ∧
          result.errors =
            o.defects ++ (o.lines.zip replies).flatMap (fun e => stockDefects e.1 e.2) ∧
          result.warnings =
            noted ++ (o.lines.zip replies).flatMap
              (fun e => stockRemarks settings.lowStockFactor e.1 e.2) ∧
          (result.isValid = true ↔ o.IsSound replies)) ∧
        ((∃ r ∈ replies, ¬ r.IsUsable) →
          ∃ f : Failure, result = ⟨["Error validating order: " ++ f.message], noted⟩)) ∧
      (∀ f, examine settings o = .error f →
        calls = [⟨.find id, .ok (.entry o)⟩] ∧
        result = ⟨["Error validating order: " ++ f.message], []⟩) ∧
      ∀ checked e f, examine settings o = .ok checked → e ∈ o.lines.zip replies →
        held settings.lowStockFactor e.1 e.2 = .error f →
        totalWarning settings.totalTolerance o = .ok checked.warnings ∧
        result = ⟨["Error validating order: " ++ f.message], checked.warnings⟩ := by
  intro calls result replies
  refine ⟨reads_review, fun still => ?_, fun f failed => ?_, fun o answered => ⟨?_, ?_, ?_⟩⟩
  · exact Program.run_still fun e mem t => still e.1 t (reads_review e mem)
  · simp only [result, review, Program.run, failed]
    rfl
  · intro noted plain total
    refine ⟨fun usable => ?_, review_of_useless answered plain total⟩
    obtain ⟨calls, -⟩ := review_of_examined answered (examine_eq plain total)
    obtain ⟨all, found⟩ := review_of_usable answered plain total usable
    refine ⟨calls, all, congrArg Review.errors found, congrArg Review.warnings found, ?_⟩
    rw [isSound_iff usable, Review.isValid_iff]
    exact iff_of_eq (congrArg (fun r : Review => r.errors = []) found)
  · exact fun f examined => review_of_unexamined answered examined
  · intro checked e f examined mem failed
    exact ⟨totalWarning_of_examine examined, review_of_failed answered examined mem failed⟩

end Validation

/-- An order with many defects: nobody is named, the address has no point, a line orders nothing for
nothing, and the total is zero. -/
def Order.flawed : Order where
  id := "order-1"
  customerName := " "
  customerEmail := "mona@example"
  lines := [⟨"p-1", "Desk Lamp", .count 0, .zero⟩, ⟨"p-2", "Desk", .count 3, .ofInt 80⟩,
    ⟨"p-3", "Chair", .count 4, .ofInt 30⟩, ⟨"p-4", "Shelf", .count 1, .ofInt 50⟩]

/-- A store with this order, in which there are too few desks, hardly enough chairs and no shelf. -/
def MemoryStore.flawed : MemoryStore where
  orders := [(.text "order-1", Order.flawed)]
  products := [(.text "p-1", ⟨"p-1", "Desk Lamp", .count 1⟩),
    (.text "p-2", ⟨"p-2", "Desk", .count 2⟩), (.text "p-3", ⟨"p-3", "Chair", .count 5⟩)]

theorem Order.isPlain_flawed : flawed.IsPlain where
  name := .inr ⟨_, rfl⟩
  email := .inr ⟨_, rfl⟩
  quantities := by decide +kernel
  prices := by simp [flawed, Decimal.zero, Decimal.ofInt, Decimal.IsFinite]
  total := ⟨_, rfl, trivial⟩

namespace Validation

/-- All that is wrong with an order is found at once. -/
theorem review_exact_sample :
    let result := ((review {} "order-1").run (MemoryStore.respond default) .flawed).1
    result.errors = ["Customer name is required", "Customer email is invalid",
      "Invalid quantity for product Desk Lamp", "Invalid price for product Desk Lamp",
      "Order total must be greater than 0",
      "Insufficient stock for Desk. Available: 2, requested: 3", "Product Shelf not found"] ∧
    result.warnings = ["Calculated total (410) does not match order total (0)",
      "Stock is low for Chair"] ∧
    result.isValid = false := by
  obtain ⟨-, -, -, found⟩ :=
    review_exact (MemoryStore.respond default) MemoryStore.flawed {} "order-1"
  obtain ⟨exact, -, -⟩ := found Order.flawed rfl
  have noted : (totalWarning ({} : OrderSettings).totalTolerance Order.flawed).toOption =
      some ["Calculated total (410) does not match order total (0)"] := by decide +kernel
  cases total : totalWarning ({} : OrderSettings).totalTolerance Order.flawed with
  | error f =>
    rw [total] at noted
    cases noted
  | ok warnings =>
    rw [total] at noted
    obtain rfl : warnings = _ := Option.some.inj noted
    obtain ⟨-, -, errors, warnings, valid⟩ :=
      (exact _ Order.isPlain_flawed total).1 (by decide +kernel)
    refine ⟨errors.trans (by decide +kernel), warnings.trans (by decide +kernel), ?_⟩
    exact Bool.eq_false_iff.mpr fun sound => absurd (valid.mp sound).total (by decide +kernel)

/-- A product that cannot be asked for ends the review. The warning about the chairs, which came
before it, is lost. -/
example :
    let o : Order := { Order.flawed with
      lines := [⟨"p-3", "Chair", .count 4, .ofInt 30⟩, ⟨.list [], "Shelf", .count 1, .ofInt 50⟩] }
    let s : MemoryStore := { MemoryStore.flawed with orders := [(.text "order-1", o)] }
    ((review {} "order-1").run (MemoryStore.respond default) s).1 =
      ⟨["Error validating order: unhashable type: 'list'"],
        ["Calculated total (170) does not match order total (0)"]⟩ := by
  decide +kernel

end Validation

end Fulfilment
