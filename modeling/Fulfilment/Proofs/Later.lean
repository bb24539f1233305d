import Fulfilment.Proofs.Fitness

/-!
# What stays and what shrinks

Whatever fails on the way, processing and calling off orders moves a store in memory in one
direction. No order comes or goes, and none changes its content; the ledger mark stays once it is
set, and an order that is completed or called off is not taken on again. The stock of a product does
not grow, and never falls below nothing. So what cannot be done in a state cannot be done later
either.

## Main definitions

* `Order.Continues`, `Product.Shrinks` - an order and a product at a later time
* `Later` - a store at a later time

## Main results

* `Later.proper` - a proper store stays one
* `Later.isFit` - an order that is fit later has been fit before
* `later_process`, `later_cancel` - every step of processing or calling off an order leads later
-/

namespace Fulfilment

open Program Processing

/-- Whether an order may have become another. -/
structure Order.Continues (o o' : Order) : Prop where
  /-- The content is the same. -/
  content : o.SameContent o'
  /-- The ledger mark stays. -/
  marked : o.stockAdjusted.truthy = true → o'.stockAdjusted.truthy = true
  /-- What is completed or called off is not taken on again. -/
  closed : ¬ o.status.IsOpen → ¬ o'.status.IsOpen

/-- Whether a product may have become another: there are no more pieces of it than there were, and
nothing at least. -/
structure Product.Shrinks (p p' : Product) : Prop where
  /-- The identifier is the same. -/
  id : p'.id = p.id
  /-- The name is the same. -/
  name : p'.name = p.name
  /-- The stock has not grown. Where it was below nothing, it may have been set to nothing. -/
  stock : ∀ m, p.stock = .count m → ∃ m', p'.stock = .count m' ∧ m' ≤ max 0 m ∧ (0 ≤ m → 0 ≤ m')

/-- Whether a store may have become another. -/
structure Later (s u : MemoryStore) : Prop where
  /-- The orders are the same ones. -/
  names : u.orders.names = s.orders.names
  /-- They have gone on. -/
  orders : ∀ key, Option.Rel Order.Continues (s.orders.get? key) (u.orders.get? key)
  /-- The stock has shrunk. -/
  products : ∀ key, Option.Rel Product.Shrinks (s.products.get? key) (u.products.get? key)

variable {s t u v : MemoryStore} {now : Timestamp} {settings : OrderSettings} {id : String}
  {o o' : Order} {p : Product} {status before : Status} {mark : Value} {changes : List Change}
  {ms : List (DeskMoment MemoryStore)}

theorem Order.Continues.refl (o : Order) : o.Continues o := ⟨.refl o, fun h => h, fun h => h⟩

theorem Order.Continues.trans {o'' : Order} (h : o.Continues o') (h' : o'.Continues o'') :
    o.Continues o'' where
  content := h.content.trans h'.content
  marked marked := h'.marked (h.marked marked)
  closed closed := h'.closed (h.closed closed)

theorem Product.Shrinks.refl (p : Product) : p.Shrinks p :=
  ⟨rfl, rfl, fun m stock => ⟨m, stock, by omega, fun h => h⟩⟩

theorem Product.Shrinks.trans {p' p'' : Product} (h : p.Shrinks p') (h' : p'.Shrinks p'') :
    p.Shrinks p'' where
  id := h'.id.trans h.id
  name := h'.name.trans h.name
  stock m stock := by
    obtain ⟨m', stock', le, nonneg⟩ := h.stock m stock
    obtain ⟨m'', stock'', le', nonneg'⟩ := h'.stock m' stock'
    exact ⟨m'', stock'', by omega, fun h => nonneg' (nonneg h)⟩

theorem rel_refl {α : Type} {R : α → α → Prop} (refl : ∀ a, R a a) (a : Option α) :
    Option.Rel R a a := by
  cases a with
  | none => exact .none
  | some a => exact .some (refl a)

theorem rel_trans {α : Type} {R : α → α → Prop} (trans : ∀ {a b c}, R a b → R b c → R a c)
    {a b c : Option α} (h : Option.Rel R a b) (h' : Option.Rel R b c) : Option.Rel R a c := by
  cases h with
  | none => exact h'
  | some first =>
    cases h' with
    | some second => exact .some (trans first second)

namespace Later

theorem refl (s : MemoryStore) : Later s s where
  names := rfl
  orders _ := rel_refl .refl _
  products _ := rel_refl .refl _

theorem trans (h : Later s t) (h' : Later t u) : Later s u where
  names := h'.names.trans h.names
  orders key := rel_trans .trans (h.orders key) (h'.orders key)
  products key := rel_trans .trans (h.products key) (h'.products key)

/-- What leads later step by step leads later as a whole. -/
theorem of_along {us : List MemoryStore} (h : Along Later s us v) : Later s v :=
  (h.rel refl trans).1

/-- An order that is in the store goes on. -/
theorem order (h : Later s u) {key : Name.Identity} (found : s.orders.get? key = some o) :
    ∃ o', u.orders.get? key = some o' ∧ o.Continues o' := by
  have rel := h.orders key
  rw [found] at rel
  cases same : u.orders.get? key with
  | none => rw [same] at rel; cases rel
  | some o' => rw [same] at rel; cases rel with | some go => exact ⟨o', rfl, go⟩

/-- An order that is in the store has been there. -/
theorem order_before (h : Later s u) {key : Name.Identity} (found : u.orders.get? key = some o') :
    ∃ o, s.orders.get? key = some o ∧ o.Continues o' := by
  have rel := h.orders key
  rw [found] at rel
  cases same : s.orders.get? key with
  | none => rw [same] at rel; cases rel
  | some o => rw [same] at rel; cases rel with | some go => exact ⟨o, rfl, go⟩

/-- A product that is in the store has been there. -/
theorem product_before (h : Later s u) {key : Name.Identity} {p' : Product}
    (found : u.products.get? key = some p') : ∃ p, s.products.get? key = some p ∧ p.Shrinks p' := by
  have rel := h.products key
  rw [found] at rel
  cases same : s.products.get? key with
  | none => rw [same] at rel; cases rel
  | some p => rw [same] at rel; cases rel with | some shrinks => exact ⟨p, rfl, shrinks⟩

theorem counted (h : Later s u) (counted : Counted s.products) : Counted u.products := by
  intro key p there
  obtain ⟨p', there', shrinks⟩ := h.product_before there
  obtain ⟨m, stock⟩ := counted key p' there'
  obtain ⟨m', stock', -⟩ := shrinks.stock m stock
  exact ⟨m', stock'⟩

/-- A proper store stays one. -/
theorem proper (h : Later s u) (proper : s.Proper) : u.Proper where
  names := h.names ▸ proper.names
  named found := by
    obtain ⟨o, found', go⟩ := h.order_before found
    obtain ⟨id, same, named⟩ := proper.named found'
    exact ⟨id, same, go.content.id.trans named⟩
  counted found := by
    obtain ⟨o, found', go⟩ := h.order_before found
    rw [go.content.lines]
    exact proper.counted found'
  stocked := h.counted proper.stocked

/-- What there is enough of later, there has been enough of before. -/
theorem hasLeft {l : Line} {n : Int} (h : Later s u) (counted : Counted s.products)
    (quantity : l.quantity = .count n) (positive : 0 < n) (left : u.HasLeft l) : s.HasLeft l := by
  obtain ⟨p', m', n', inStock, stock', quantity', enough⟩ := left
  rw [quantity] at quantity'
  cases quantity'
  obtain ⟨key, named, there⟩ := MemoryStore.product_eq_ok.mp inStock
  obtain ⟨p, there', shrinks⟩ := h.product_before there
  obtain ⟨m, stock⟩ := counted key p there'
  obtain ⟨k, same, le, -⟩ := shrinks.stock m stock
  rw [stock'] at same
  cases same
  exact ⟨p, m, n, MemoryStore.product_eq_ok.mpr ⟨key, named, there'⟩, stock, quantity, by omega⟩

/-- An order that is fit later has been fit before. -/
theorem isFit (h : Later s u) (proper : s.Proper) (found : s.order? id = some o)
    (go : o.Continues o') (fit : u.IsFit settings o') : s.IsFit settings o where
  examined := by
    rw [← examine_congr go.content]
    exact fit.examined
  covered l mem := by
    have mem' : l ∈ o'.lines := go.content.lines ▸ mem
    obtain ⟨n, quantity⟩ := proper.counted found l mem
    obtain ⟨left, times⟩ :=
      (MemoryStore.covers_iff (h.proper proper).stocked quantity).mp (fit.covered l mem')
    have before := h.hasLeft proper.stocked quantity (fit.quantity_pos mem' quantity) left
    exact (MemoryStore.covers_iff proper.stocked quantity).mpr ⟨before, times⟩

end Later

/-! ### The steps -/

/-- A status write leads later, unless it takes an order on again. -/
theorem later_wrote {r : Except Failure Value} (course : ∀ c ∈ changes, c.isOfCourse = true)
    (keeps : ∀ m : Value, m.truthy = true → (changes.foldl Change.mark m).truthy = true)
    (forward : status.IsOpen → ∀ o, s.order? id = some o → o.status.IsOpen)
    (h : Disturbed now s (wrote (.text id) status changes r) u) : Later s u := by
  rcases h.wrote course with ⟨-, o, found, rfl⟩ | ⟨-, rfl⟩
  case inr => exact .refl u
  refine ⟨MemoryStore.names_advance found, fun key => ?_, fun key => rel_refl .refl _⟩
  rw [MemoryStore.get?_advance]
  split
  next same =>
    subst same
    -- The order that is written keeps its mark, and is open only if it has been open.
    rw [show s.orders.get? (.text id) = some o from found]
    refine .some ⟨MemoryStore.sameContent_written course, fun marked => ?_, fun closed => ?_⟩
    · rw [MemoryStore.stockAdjusted_written]
      exact keeps _ marked
    · rw [MemoryStore.status_written]
      exact fun isOpen => closed (forward isOpen o found)
  next => exact rel_refl .refl _

/-- Taking something out of a stock leads later. -/
theorem later_restock {key : Name.Identity} {m n : Int} (there : s.products.get? key = some p)
    (stock : p.stock = .count m) (positive : 0 < n) :
    Later s (s.restock key (.count (max 0 (m - n))) p) := by
  refine ⟨rfl, fun key' => rel_refl .refl _, fun key' => ?_⟩
  rw [MemoryStore.get?_restock]
  split
  next same =>
    subst same
    rw [there]
    refine .some ⟨rfl, rfl, fun k same => ?_⟩
    rw [stock] at same
    cases same
    exact ⟨max 0 (m - n), rfl, by omega, fun _ => by omega⟩
  next => exact rel_refl .refl _

theorem later_adjustLine {l : Line} {n : Int} {w : Option String} (counted : Counted s.products)
    (quantity : l.quantity = .count n) (positive : 0 < n)
    (h : Runs (Disturbed now) (adjustLine l) s ms w v) : Along Later s (states ms) v := by
  obtain ⟨reply, answered, rfl, -⟩ | ⟨p, rest, reply, u, answered, left, written, rfl⟩ :=
    runs_adjustLine h
  · obtain ⟨rfl, -⟩ := answered.product
    exact ⟨.refl v, rfl⟩
  obtain ⟨rfl, found⟩ := answered.product
  refine ⟨.refl u, ?_, rfl⟩
  rcases written.setStock with ⟨-, key, q, named, there, rfl⟩ | ⟨-, rfl⟩
  case inr => exact .refl v
  have same : u.product l.productId = .ok (some q) :=
    MemoryStore.product_eq_ok.mpr ⟨key, named, there⟩
  obtain ⟨f, failed⟩ | found := found
  · cases failed
  rw [same] at found
  cases found
  obtain ⟨m, stock⟩ := counted key p there
  rw [stock, quantity, Quantity.without?_count] at left
  cases left
  exact later_restock there stock positive

/-- Adjusting lines that order something leads later, step by step. -/
theorem later_adjustLines {ls : List Line} {ws : List String} (counted : Counted s.products)
    (positive : ∀ l ∈ ls, ∃ n, l.quantity = .count n ∧ 0 < n)
    (h : Runs (Disturbed now) (adjustLines ls) s ms ws v) : Along Later s (states ms) v := by
  induction ls generalizing s ms ws with
  | nil =>
    obtain ⟨rfl, rfl, rfl⟩ := runs_done_iff.mp h
    rfl
  | cons l ls ih =>
    obtain ⟨ms₁, w, u, ms₂, first, second, rfl⟩ := runs_bind_iff.mp h
    obtain ⟨ws', others, -⟩ := runs_map_iff.mp second
    obtain ⟨n, quantity, something⟩ := positive l List.mem_cons_self
    -- The stocks are whole numbers after the line as well, so the rest can go on from there.
    have along := later_adjustLine counted quantity something first
    have later := Later.of_along along
    rw [states_append]
    exact along.append (ih (later.counted counted)
      (fun l' mem => positive l' (List.mem_cons_of_mem l mem)) others)

/-- Adjusting lines leaves the orders alone, step by step. -/
theorem along_adjustLines {ls : List Line} {ws : List String}
    (h : Runs (Disturbed now) (adjustLines ls) s ms ws v) :
    Along (fun s u => u.orders = s.orders) s (states ms) v := by
  refine h.along (asks_adjustLines ls) fun s e u stock answered => ?_
  obtain ⟨(_ | _) | _, r⟩ := e <;> try cases stock
  · rw [answered.product.1]
  · rcases answered.setStock with ⟨-, key, p, -, -, rfl⟩ | ⟨-, rfl⟩ <;> rfl

theorem orders_adjustLines {ls : List Line} {ws : List String}
    (h : Runs (Disturbed now) (adjustLines ls) s ms ws v) : v.orders = s.orders :=
  ((along_adjustLines h).rel (fun _ => rfl) fun first second => second.trans first).1

/-! ### Processing -/

/-- Whether an order is being worked on. -/
def MemoryStore.IsAt (s : MemoryStore) (id : String) (o : Order) : Prop :=
  ∃ status mark, s.Holds id o status mark ∧ status.IsOpen

theorem MemoryStore.IsAt.congr (h : s.IsAt id o) (same : u.orders = s.orders) : u.IsAt id o := by
  obtain ⟨status, mark, ⟨o', found, rest⟩, isOpen⟩ := h
  refine ⟨status, mark, ⟨o', ?_, rest⟩, isOpen⟩
  rw [MemoryStore.order?, same]
  exact found

/-- A status write on the way leads later, and the order is still being worked on unless it has been
completed or called off. -/
theorem later_step {r : Except Failure Value} (course : ∀ c ∈ changes, c.isOfCourse = true)
    (keeps : ∀ m : Value, m.truthy = true → (changes.foldl Change.mark m).truthy = true)
    (holds : s.IsAt id o) (h : Disturbed now s (wrote (.text id) status changes r) u) :
    Later s u ∧ (taken r = false ∨ status.IsOpen → u.IsAt id o) := by
  obtain ⟨before, mark, holds, isOpen⟩ := holds
  refine ⟨later_wrote course keeps (fun _ o' found => ?_) h, fun goesOn => ?_⟩
  · obtain ⟨o'', found', -, rfl, -⟩ := holds
    rw [found] at found'
    cases found'
    exact isOpen
  · cases accepted : taken r with
    | true =>
      have isOpen : status.IsOpen := by simpa [accepted] using goesOn
      exact ⟨status, _, (h.accepted course accepted holds).1, isOpen⟩
    | false =>
      obtain rfl := h.refused course accepted
      exact ⟨before, mark, holds, isOpen⟩

theorem later_validated {r : Except Failure Value} (holds : s.IsAt id o)
    (h : Disturbed now s (wrote (.text id) .validated [.validatedAt (.timestamp now)] r) u) :
    Later s u ∧ u.IsAt id o := by
  obtain ⟨later, goesOn⟩ := later_step (by simp [Change.isOfCourse]) (by exact fun _ m => m) holds h
  exact ⟨later, goesOn (.inr (by simp [Status.IsOpen]))⟩

theorem later_marked {r : Except Failure Value} (holds : s.IsAt id o) (isOpen : status.IsOpen)
    (h : Disturbed now s (wrote (.text id) status [] r) u) : Later s u ∧ u.IsAt id o := by
  obtain ⟨later, goesOn⟩ := later_step (by simp) (by exact fun _ m => m) holds h
  exact ⟨later, goesOn (.inr isOpen)⟩

theorem later_ledger {r : Except Failure Value} (holds : s.IsAt id o)
    (h : Disturbed now s (wrote (.text id) .processing [.stockAdjusted (.bool true)] r) u) :
    Later s u ∧ u.IsAt id o := by
  obtain ⟨later, goesOn⟩ := later_step (by simp [Change.isOfCourse]) (fun _ _ => rfl) holds h
  exact ⟨later, goesOn (.inr (by simp [Status.IsOpen]))⟩

theorem later_adjustment (counted : Counted s.products)
    (positive : ∀ l ∈ o.lines, ∃ n, l.quantity = .count n ∧ 0 < n) (named : o.id = .text id)
    (holds : s.IsAt id o) (h : Adjustment (Disturbed now) o s ms v) :
    Along Later s (states ms) v ∧ v.IsAt id o := by
  cases h with
  | skipped marked => exact ⟨rfl, holds⟩
  | made reply unmarked lines mark =>
    rw [named] at mark
    obtain ⟨later, holds⟩ := later_ledger (holds.congr (orders_adjustLines lines)) mark
    rw [states_append]
    exact ⟨(later_adjustLines counted positive lines).append ⟨later, rfl⟩, holds⟩

theorem later_closing {success : Bool} (counted : Counted s.products)
    (positive : ∀ l ∈ o.lines, ∃ n, l.quantity = .count n ∧ 0 < n) (named : o.id = .text id)
    (holds : s.IsAt id o) (h : Closing (Disturbed now) o s ms success v) :
    Along Later s (states ms) v ∧ (success = false → v.IsAt id o) := by
  cases h with
  | uncompleted adjusted completed refused =>
    obtain ⟨along, holds⟩ := later_adjustment counted positive named holds adjusted
    rw [named] at completed
    obtain ⟨later, goesOn⟩ := later_step (by simp) (by exact fun _ m => m) holds completed
    rw [states_append]
    exact ⟨along.append ⟨later, rfl⟩, fun _ => goesOn (.inl refused)⟩
  | completed adjusted completed accepted told =>
    obtain ⟨along, holds⟩ := later_adjustment counted positive named holds adjusted
    rw [named] at completed
    obtain ⟨later, -⟩ := later_step (by simp) (by exact fun _ m => m) holds completed
    obtain rfl := told.aside (by simp)
    rw [states_append]
    exact ⟨along.append ⟨later, .refl v, rfl⟩, by simp⟩

theorem later_passage {success : Bool} (counted : Counted s.products)
    (positive : ∀ l ∈ o.lines, ∃ n, l.quantity = .count n ∧ 0 < n) (named : o.id = .text id)
    (holds : s.IsAt id o) (h : Passage (Disturbed now) now o s ms success v) :
    Along Later s (states ms) v ∧ (success = false → v.IsAt id o) := by
  cases h with
  | unvalidated validated refused =>
    rw [named] at validated
    obtain ⟨later, holds⟩ := later_validated holds validated
    exact ⟨⟨later, rfl⟩, fun _ => holds⟩
  | unmarked validated accepted marked refused =>
    rw [named] at validated marked
    obtain ⟨later, holds⟩ := later_validated holds validated
    obtain ⟨later', holds⟩ := later_marked holds (by simp [Status.IsOpen]) marked
    exact ⟨⟨later, later', rfl⟩, fun _ => holds⟩
  | unprinted validated accepted marked accepted' printed =>
    rw [named] at validated marked
    obtain ⟨later, holds⟩ := later_validated holds validated
    obtain ⟨later', holds⟩ := later_marked holds (by simp [Status.IsOpen]) marked
    obtain rfl := printed.aside (by simp)
    exact ⟨⟨later, later', .refl v, rfl⟩, fun _ => holds⟩
  | printed receipt validated accepted marked accepted' printed confirmed closing =>
    rw [named] at validated marked
    obtain ⟨later, holds⟩ := later_validated holds validated
    obtain ⟨later', holds⟩ := later_marked holds (by simp [Status.IsOpen]) marked
    obtain rfl := printed.aside (by simp)
    obtain rfl := confirmed.aside (by simp)
    obtain ⟨along, holds⟩ :=
      later_closing ((later.trans later').counted counted) positive named holds closing
    exact ⟨⟨later, later', .refl _, .refl _, along⟩, holds⟩

theorem later_attempt {success : Bool} (ready : s.Ready id o) (isOpen : o.status.IsOpen)
    (fit : s.IsFit settings o) (h : Attempt (Disturbed now) now o (.text id) s ms success v) :
    Along Later s (states ms) v := by
  have positive := fit.quantities_pos ready.quantities
  have holds : s.IsAt id o := ⟨_, _, MemoryStore.holds_of_order? ready.found, isOpen⟩
  cases h with
  | passed passage => exact (later_passage ready.stocked positive ready.named holds passage).1
  | undone reply passage undo =>
    obtain ⟨along, holds⟩ := later_passage ready.stocked positive ready.named holds passage
    obtain ⟨later, -⟩ := later_marked (holds rfl) (by simp [Status.IsOpen]) undo
    rw [states_append]
    exact along.append ⟨later, rfl⟩

/-- Every step of processing an order leads later. -/
theorem later_process {a : Except Failure Report} (proper : s.Proper)
    (h : Runs (Disturbed now) (process now settings (.text id)) s ms a v) :
    Along Later s (states ms) v := by
  obtain ⟨-, still, rfl⟩ | ⟨o, success, ms₁, ns, found, isOpen, fit, rfl, -, still, attempt⟩ :=
    course_disturbed (fun _ _ _ answered => answered) h
  · exact along_of_still .refl still
  · rw [states_append]
    have along := later_attempt (proper.ready found) isOpen fit attempt
    exact (along_of_still .refl still).append along

/-- Calling off an order leads later. -/
theorem later_cancel {reason : Value} {success : Bool}
    (h : Runs (Disturbed now) (cancel now settings (.text id) reason) s ms success v) :
    Along Later s (states ms) v := by
  have step {r u} (calledOff : Disturbed now s (wrote (.text id) .cancelled
      [.cancelledAt (.timestamp now), .cancellationReason (reasonOr settings reason)] r) u) :
      Later s u :=
    later_wrote (by simp [Change.isOfCourse]) (by exact fun _ m => m) (by simp [Status.IsOpen])
      calledOff
  cases callingOff_of_runs h with
  | refused calledOff => exact ⟨step calledOff, rfl⟩
  | told calledOff accepted told =>
    obtain rfl := told.aside (by simp)
    exact ⟨step calledOff, .refl v, rfl⟩

end Fulfilment
