import Fulfilment.Proofs.MemoryDesk

/-!
# Adjusting the stock

Where the store carries out every call, adjusting the stock for an order takes the quantities of its
lines out of the stock, one line after the other and down to nothing at most, and marks the order.
The marked order is passed over from then on.

## Main definitions

* `takeOut` - the products after the quantity of a line is taken out
* `Order.adjusted`, `Order.adjustedMark` - the products and the ledger mark after an order is
  adjusted

## Main results

* `runs_adjustLines_undisturbed` - the lines are taken out, and the orders are left alone
* `adjustment_undisturbed` - what adjusting the stock for an order leaves behind
-/

namespace Fulfilment

open Program Processing

/-- The product with a quantity taken out of its stock, down to nothing at most. -/
def Product.less (quantity : Quantity) (p : Product) : Product :=
  match p.stock, quantity with
  | .count m, .count n => { p with stock := .count (max 0 (m - n)) }
  | _, _ => p

/-- The products with the quantity of a line taken out of the stock of its product. -/
def takeOut (ps : Products) (l : Line) : Products :=
  match l.productId.identity with
  | .ok key => ps.modify key (.less l.quantity)
  | .error _ => ps

namespace Order

/-- The products after the stock is adjusted for an order. -/
def adjusted (o : Order) (ps : Products) : Products :=
  if o.stockAdjusted.truthy then ps else o.lines.foldl takeOut ps

/-- The ledger mark after the stock is adjusted for an order. -/
def adjustedMark (o : Order) : Value :=
  if o.stockAdjusted.truthy then o.stockAdjusted else .bool true

theorem truthy_adjustedMark (o : Order) : o.adjustedMark.truthy = true := by
  unfold adjustedMark
  split
  next marked => exact marked
  next => rfl

end Order

variable {s v : MemoryStore} {now : Timestamp} {id : String} {o o' : Order} {l : Line}
  {ls : List Line} {ps : Products} {ms : List (DeskMoment MemoryStore)} {n : Int}

@[simp] theorem less_count {p : Product} {m n : Int} (stock : p.stock = .count m) :
    Product.less (.count n) p = { p with stock := .count (max 0 (m - n)) } := by
  simp [Product.less, stock]

theorem counted_takeOut (counted : Counted ps) (quantity : l.quantity = .count n) :
    Counted (takeOut ps l) := by
  intro key p there
  unfold takeOut at there
  split at there
  next named name =>
    rw [Catalog.get?_modify] at there
    split at there
    · obtain ⟨q, found, rfl⟩ := Option.map_eq_some_iff.mp there
      obtain ⟨m, stock⟩ := counted key q found
      exact ⟨max 0 (m - n), by rw [quantity, less_count stock]⟩
    · exact counted key p there
  · exact counted key p there

theorem counted_adjusted (counted : Counted ps)
    (quantities : ∀ l ∈ o.lines, ∃ n, l.quantity = .count n) : Counted (o.adjusted ps) := by
  unfold Order.adjusted
  split
  · exact counted
  · generalize o.lines = ls at quantities
    induction ls generalizing ps with
    | nil => exact counted
    | cons l ls ih =>
      obtain ⟨n, quantity⟩ := quantities l List.mem_cons_self
      exact ih (counted_takeOut counted quantity)
        fun l' mem => quantities l' (List.mem_cons_of_mem l mem)

/-- Where there is no product, nothing is taken out. -/
theorem takeOut_of_missing (missing : ∀ p, s.product l.productId ≠ .ok (some p)) :
    takeOut s.products l = s.products := by
  unfold takeOut
  split
  next key named =>
    refine Catalog.modify_eq_self _ ?_
    cases there : s.products.get? key with
    | none => rfl
    | some p => exact absurd (MemoryStore.product_eq_ok.mpr ⟨key, named, there⟩) (missing p)
  · rfl

theorem takeOut_of_product {key : Name.Identity} {p : Product}
    (named : l.productId.identity = .ok key) (there : s.products.get? key = some p) :
    takeOut s.products l = s.products.put key (.less l.quantity p) := by
  unfold takeOut
  rw [named]
  exact Catalog.modify_eq_put _ there

/-- A line is taken out of the stock. -/
theorem runs_adjustLine_undisturbed {w : Option String} (counted : Counted s.products)
    (quantity : l.quantity = .count n) (h : Runs (Undisturbed now) (adjustLine l) s ms w v) :
    v = { s with products := takeOut s.products l } ∧ ∀ t ∈ states ms, t.orders = s.orders := by
  obtain ⟨reply, answered, rfl, kept⟩ | ⟨p, rest, reply, u, answered, left, written, rfl⟩ :=
    runs_adjustLine h
  · have replied : ((s.product l.productId).map Found.ofOption, s) = (reply, v) := answered
    cases replied
    refine ⟨?_, by simp⟩
    rw [takeOut_of_missing]
    intro p found
    obtain ⟨key, -, there⟩ := MemoryStore.product_eq_ok.mp found
    obtain ⟨m, stock⟩ := counted key p there
    have none := kept p (by rw [found]; rfl)
    rw [stock, quantity, Quantity.without?_count] at none
    cases none
  · have replied : ((s.product l.productId).map Found.ofOption, s) = (.ok (.entry p), u) := answered
    obtain ⟨replied, rfl⟩ := Prod.mk.inj replied
    have found : s.product l.productId = .ok (some p) := by
      cases looked : s.product l.productId with
      | error f => simp [looked, Except.map] at replied
      | ok found => cases found <;> simp_all [Except.map]
    obtain ⟨-, key, named, there, rfl⟩ := written.setStock found
    obtain ⟨m, stock⟩ := counted key p there
    rw [stock, quantity, Quantity.without?_count] at left
    cases left
    refine ⟨?_, by simp⟩
    rw [takeOut_of_product named there, quantity, less_count stock]
    rfl

/-- The lines are taken out of the stock one after the other, and the orders are left alone. -/
theorem runs_adjustLines_undisturbed {ws : List String} (counted : Counted s.products)
    (quantities : ∀ l ∈ ls, ∃ n, l.quantity = .count n)
    (h : Runs (Undisturbed now) (adjustLines ls) s ms ws v) :
    v = { s with products := ls.foldl takeOut s.products } ∧
      ∀ t ∈ states ms, t.orders = s.orders := by
  induction ls generalizing s ms ws with
  | nil =>
    obtain ⟨rfl, rfl, rfl⟩ := runs_done_iff.mp h
    exact ⟨rfl, by simp⟩
  | cons l ls ih =>
    obtain ⟨ms₁, w, u, ms₂, first, second, rfl⟩ := runs_bind_iff.mp h
    obtain ⟨ws', others, -⟩ := runs_map_iff.mp second
    obtain ⟨n, quantity⟩ := quantities l List.mem_cons_self
    obtain ⟨rfl, kept⟩ := runs_adjustLine_undisturbed counted quantity first
    obtain ⟨rfl, kept'⟩ := ih (counted_takeOut counted quantity)
      (fun l' mem => quantities l' (List.mem_cons_of_mem l mem)) others
    refine ⟨rfl, fun t mem => ?_⟩
    rw [states_append, List.mem_append] at mem
    rcases mem with mem | mem
    · exact kept t mem
    · exact kept' t mem

theorem Processing.Adjustment.mono_of_asks {σ : Type} {env env' : DeskEnvironment σ} {o : Order}
    {x y : σ} {ns : List (DeskMoment σ)} (h : Adjustment env o x ns y)
    (stock : ∀ s e u, e.1.IsStock → env s e u → env' s e u)
    (ledger : ∀ s r u, env s (wrote o.id .processing [.stockAdjusted (.bool true)] r) u →
      env' s (wrote o.id .processing [.stockAdjusted (.bool true)] r) u) :
    Adjustment env' o x ns y := by
  cases h with
  | skipped marked => exact .skipped marked
  | made reply unmarked lines mark =>
    exact .made reply unmarked (lines.mono_of_asks (asks_adjustLines _) stock) (ledger _ _ _ mark)

/-- Adjusting the stock for an order that is in the store. -/
theorem adjustment_undisturbed {status : Status} (counted : Counted s.products)
    (quantities : ∀ l ∈ o.lines, ∃ n, l.quantity = .count n) (named : o.id = .text id)
    (holds : s.Holds id o status o.stockAdjusted) (h : Adjustment (Undisturbed now) o s ms v) :
    v.products = o.adjusted s.products ∧
      v.Holds id o (if o.stockAdjusted.truthy then status else .processing) o.adjustedMark := by
  cases h with
  | skipped marked => simpa [Order.adjusted, Order.adjustedMark, marked] using holds
  | made reply unmarked lines mark =>
    obtain ⟨rfl, -⟩ := runs_adjustLines_undisturbed counted quantities lines
    rw [named] at mark
    have holds : MemoryStore.Holds { s with products := o.lines.foldl takeOut s.products } id o
        status o.stockAdjusted := holds
    have accepted := mark.accepts (by simp [Change.isOfCourse]) holds
    obtain ⟨marked, same⟩ := mark.disturbed.accepted (by simp [Change.isOfCourse]) accepted holds
    rw [same]
    simpa [Order.adjusted, Order.adjustedMark, unmarked, Change.mark] using marked

end Fulfilment
