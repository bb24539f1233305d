import Fulfilment.Proofs.Calls
import Fulfilment.Proofs.Census
import Fulfilment.Proofs.Credits
import Fulfilment.Proofs.Independence
import Fulfilment.Proofs.Lifecycle

/-!
# What the work on an order leaves alone

Processing an order, once or again, writes to the order and to the stock of its products, and
calling it off writes to the order alone. Whatever fails on the way, no other order and no other
product is touched; of the order itself only the members change that belong to the work, and of a
product only the stock. All members go through one write, which takes any of them, so this is a
matter of the calls that are made.

Where the report says that an order was not taken on, and where a calling off fails, nothing is
written at all.

This is about the store in memory, at a desk at which any call may fail. It rests on the order being
entered under its own identifier, since the work is done on the identifier that the order bears.
That is kept up by all that is done to a store.

## Main definitions

* `Order.Handled`, `Order.Recalled` - what may change of an order
* `MemoryStore.Confined` - two stores that differ in a part only, and there only in what may change
* `Report.refusals` - what is reported of an order that is left alone

## Main results

* `MemoryStore.confined_of_event` - what a single call may change
* `MemoryStore.confined_of_run` - what a run may change
* `Deed.identified_of_does` - the orders stay under their identifiers
* `Processing.work_confined` - what processing and calling off may change
-/

namespace Fulfilment

open Program Rehearsal

variable {o o' o'' : Order} {changes : List Change} {now : Timestamp} {status : Status}

/-! ### What may change of an order -/

/-- Whether an order differs at most in what processing writes: the status, the time of the last
change, the time at which it was found fit, and the ledger mark. -/
def Order.Handled (o o' : Order) : Prop :=
  o' = { o with
    status := o'.status
    updatedAt := o'.updatedAt
    validatedAt := o'.validatedAt
    stockAdjusted := o'.stockAdjusted }

/-- Whether an order differs at most in what calling off writes: the status, the time of the last
change, the time of the calling off, and the reason for it. -/
def Order.Recalled (o o' : Order) : Prop :=
  o' = { o with
    status := o'.status
    updatedAt := o'.updatedAt
    cancelledAt := o'.cancelledAt
    cancellationReason := o'.cancellationReason }

/-- Whether a product differs at most in the stock. -/
def Product.Restocked (p p' : Product) : Prop := p' = { p with stock := p'.stock }

namespace Product.Restocked

variable {p p' p'' : Product}

theorem refl (p : Product) : p.Restocked p := rfl

theorem trans (h : p.Restocked p') (h' : p'.Restocked p'') : p.Restocked p'' :=
  Eq.trans h' (by rw [h])

end Product.Restocked

/-- Whether a change is a mark that belongs to the calling off of an order. -/
def Change.isOfCallingOff : Change → Bool
  | cancelledAt _ | cancellationReason _ => true
  | _ => false

/-- Whether a relation of orders allows for a status to be written, with the time and with changes
of some kind, any number of times. -/
structure Order.Allows (kind : Change → Bool) (R : Order → Order → Prop) : Prop where
  refl : ∀ o, R o o
  trans : ∀ {o o' o''}, R o o' → R o' o'' → R o o''
  dated : ∀ (o : Order) (status : Status) (time : Value),
    R o { o with status := status, updatedAt := time }
  marked : ∀ (o : Order) (c : Change), kind c = true → R o (o.apply c)

theorem Order.allows_handled : Order.Allows Change.isOfProcessing Order.Handled where
  refl _ := rfl
  trans h h' := h'.trans (by rw [h])
  dated _ _ _ := rfl
  marked o c marks := by
    cases c <;> first | rfl | cases marks

theorem Order.allows_recalled : Order.Allows Change.isOfCallingOff Order.Recalled where
  refl _ := rfl
  trans h h' := h'.trans (by rw [h])
  dated _ _ _ := rfl
  marked o c marks := by
    cases c <;> first | rfl | cases marks

theorem Order.Allows.written {kind : Change → Bool} {R : Order → Order → Prop}
    (h : Order.Allows kind R) (marks : ∀ c ∈ changes, kind c = true) (o : Order) :
    R o (MemoryStore.written now status changes o) := by
  -- The status is written first, and the induction is on the changes that follow.
  suffices rest : ∀ p, R p (changes.foldl Order.apply p) from h.trans (h.dated o status _) (rest _)
  induction changes with
  | nil => exact h.refl
  | cons c cs ih =>
    intro p
    obtain ⟨first, others⟩ := List.forall_mem_cons.mp marks
    exact h.trans (h.marked p c first) (ih others _)

/-- Whether a call writes to an order no other members than those of some kind. -/
def DeskCall.Marks (kind : Change → Bool) : DeskCall → Prop
  | .store (.write _ _ changes) => ∀ c ∈ changes, kind c = true
  | _ => True

theorem DeskCall.IsOfProcessing.marks {c : DeskCall} (h : c.IsOfProcessing) :
    c.Marks Change.isOfProcessing := by
  obtain (_ | _) | _ := c <;> first | exact h | trivial

/-! ### What single calls may change -/

namespace MemoryStore

variable {P : Part} {kind : Change → Bool} {R : Order → Order → Prop} {s t u v : MemoryStore}
  {id : Value} {stock : Quantity} {e : DeskEvent}

/-- Whether two stores have the same orders and products, differ in none outside a part, and inside
differ in the orders as a relation says and in the stock of the products. -/
structure Confined (P : Part) (R : Order → Order → Prop) (s u : MemoryStore) : Prop where
  /-- The orders are listed under the same identifiers. -/
  orderNames : u.orders.names = s.orders.names
  /-- The products are listed under the same identifiers. -/
  productNames : u.products.names = s.products.names
  /-- Outside the part nothing differs. -/
  elsewhere : AgreeOn P.others s u
  /-- The orders differ as the relation says. -/
  orders : ∀ key, Option.Rel R (s.orders.get? key) (u.orders.get? key)
  /-- The products differ in the stock. -/
  products : ∀ key, Option.Rel Product.Restocked (s.products.get? key) (u.products.get? key)

namespace Confined

theorem refl (refl : ∀ o, R o o) (s : MemoryStore) : s.Confined P R s where
  orderNames := rfl
  productNames := rfl
  elsewhere := .refl P.others s
  orders _ := rel_refl refl _
  products _ := rel_refl Product.Restocked.refl _

theorem trans (trans : ∀ {o o' o''}, R o o' → R o' o'' → R o o'') (h : s.Confined P R t)
    (h' : t.Confined P R u) : s.Confined P R u where
  orderNames := h'.orderNames.trans h.orderNames
  productNames := h'.productNames.trans h.productNames
  elsewhere := h.elsewhere.trans h'.elsewhere
  orders key := rel_trans (R := R) trans (h.orders key) (h'.orders key)
  products key := rel_trans (R := Product.Restocked) .trans (h.products key) (h'.products key)

end Confined

theorem confined_write (allows : Order.Allows kind R) (within : P.HasOrder id)
    (marks : ∀ c ∈ changes, kind c = true) :
    s.Confined P R (s.write now id status changes).2 := by
  have elsewhere : AgreeOn P.others s (s.write now id status changes).2 :=
    write_elsewhere within status changes
  rcases result : s.write now id status changes with ⟨reply, u⟩
  rw [result] at elsewhere
  rcases write_cases result with ⟨-, rfl⟩ | ⟨key, o, -, found, -, rfl⟩
  · exact .refl allows.refl u
  · refine ⟨Catalog.names_put_of_get? found _, rfl, elsewhere, fun other => ?_,
      fun _ => rel_refl Product.Restocked.refl _⟩
    rw [Catalog.get?_put]
    split
    next same =>
      rw [← eq_of_beq same, found]
      exact .some (allows.written marks o)
    next => exact rel_refl allows.refl _

theorem confined_setStock (allows : Order.Allows kind R) (within : P.HasProduct id) :
    s.Confined P R (s.setStock id stock).2 := by
  have elsewhere : AgreeOn P.others s (s.setStock id stock).2 := setStock_elsewhere within stock
  rcases result : s.setStock id stock with ⟨reply, u⟩
  rw [result] at elsewhere
  rcases setStock_cases result with ⟨-, rfl⟩ | ⟨key, p, -, found, -, rfl⟩
  · exact .refl allows.refl u
  · refine ⟨rfl, Catalog.names_put_of_get? found _, elsewhere, fun _ => rel_refl allows.refl _,
      fun other => ?_⟩
    rw [Catalog.get?_put]
    split
    next same =>
      rw [← eq_of_beq same, found]
      exact .some rfl
    next => exact rel_refl Product.Restocked.refl _

/-- A call within a part, which writes to orders no other members than those that may change, leaves
the store confined to the part, whether it is carried out or fails. -/
theorem confined_of_event (allows : Order.Allows kind R) (within : e.1.IsWithin P)
    (marks : e.1.Marks kind) (h : Disturbed now s e u) : s.Confined P R u := by
  rcases h.eq_or_respond with rfl | ⟨c, asked, rfl⟩
  · exact .refl allows.refl u
  · rw [asked] at within marks
    cases c with
    | write => exact confined_write allows within marks
    | setStock => exact confined_setStock allows within
    | _ => exact .refl allows.refl s

/-! ### What runs may change -/

/-- What every call leaves confined, a run leaves confined all along. -/
theorem confined_of_run {α : Type} {p : DeskProgram α} {ms : List (DeskMoment MemoryStore)} {a : α}
    (allows : Order.Allows kind R) (h : Runs (Disturbed now) p s ms a v)
    (within : ∀ e ∈ events ms, e.1.IsWithin P) (marks : ∀ e ∈ events ms, e.1.Marks kind) :
    ∀ u ∈ v :: states ms, s.Confined P R u := by
  have asked : ∀ e ∈ events ms, e.1.IsWithin P ∧ e.1.Marks kind :=
    fun e mem => ⟨within e mem, marks e mem⟩
  have along : Along (Confined P R) s (states ms) v :=
    h.along_of_events asked fun _ _ _ asked => confined_of_event allows asked.1 asked.2
  exact List.forall_mem_cons.mpr (along.rel (.refl allows.refl) (.trans allows.trans))

variable {name : String}

/-- No call that may fail gives an order another identifier or other lines. -/
theorem imprint_of_disturbed (h : Disturbed now s e u) : u.imprint name = s.imprint name := by
  rcases h.eq_or_respond with rfl | ⟨c, -, rfl⟩
  · rfl
  · exact imprint_respond s now c

theorem Owns.regular_of_disturbed (owns : s.Owns P name) (h : Disturbed now s e u) :
    Regular P name e := by
  unfold Regular
  split
  next other o =>
    rintro rfl
    obtain ⟨-, ⟨f, failed⟩ | found⟩ := h.looked
    · cases failed
    · exact owns o (Found.ofOption_eq_entry.mp (Except.ok.inj found).symm)
  next => trivial

end MemoryStore

/-! ### Orders under their identifiers -/

section Identified

variable {d : Deed} {settings : OrderSettings} {s u : Store}

/-- Whatever is done to a store leaves the orders under their identifiers, if an order that is
entered has a text as identifier. -/
theorem Deed.identified_of_does (texts : ∀ o, d = .errand (.enter o) → ∃ key, o.id = .text key)
    (identified : s.Identified) (done : d.Does now settings s u) : u.Identified := by
  cases d with
  | operation op =>
    obtain ⟨ms, run⟩ := done
    exact run.keeps (fun _ _ _ => Store.follows.kept) identified
  | errand e =>
    obtain rfl : (s.serve now e).2 = u := done
    cases e with
    | call c => exact identified.respond rfl
    | enterProduct p =>
      rw [Store.serve_enterProduct]
      cases result : s.enterProduct p with
      | error f => exact identified
      | ok u => exact identified.enterProduct result
    | enter o =>
      obtain ⟨key, named⟩ := texts o rfl
      rw [Store.serve_enter]
      cases result : s.enter now o with
      | error f => exact identified
      | ok u => exact identified.enter named result

end Identified

/-! ### Processing and calling off -/

/-- What is reported of an order that is not taken on. -/
def Report.refusals : List String :=
  ["Error loading order", "Order not found", "Order is cancelled", "Order already processed",
    "Order is not valid"]

namespace Processing

open MemoryStore

variable {settings : OrderSettings} {id : String} {s v : MemoryStore}
  {ms : List (DeskMoment MemoryStore)} {a : Except Failure Report}

/-- Processing works with the order and with the products of its lines, whatever fails on the
way. -/
theorem isWithin_of_disturbed (named : ∀ o, s.order? id = some o → o.id = .text id)
    (h : Runs (Disturbed now) (process now settings (.text id)) s ms a v) :
    ∀ e ∈ events ms, e.1.IsWithin (s.partOf id) := by
  have regular : Runs (fun _ e _ => Regular (s.partOf id) id e) _ _ _ _ _ :=
    h.mono_of_keeps (owns_partOf_of_named named) fun t e u owns answered =>
      ⟨owns.regular_of_disturbed answered, owns.of_imprint (imprint_of_disturbed answered)⟩
  exact (course_of_runs regular).isWithin rfl fun _ _ _ allowed => allowed

/-- There is always a report, and an order that is not attempted is left alone. -/
theorem still_or_attempted (h : Runs (Disturbed now) (process now settings (.text id)) s ms a v) :
    ∃ report, a = .ok report ∧
      ((∀ u ∈ v :: states ms, u = s) ∨ report.message = attemptMessage report.success) := by
  have still : ∀ s e u, DeskCall.IsRead e.1 → Disturbed now s e u → u = s :=
    fun _ _ _ read answered => answered.read read
  cases course_of_runs h with
  | unread loaded | missing loaded | closed loaded =>
    obtain ⟨rfl, -⟩ := loaded.looked
    exact ⟨_, rfl, .inl (by simp)⟩
  | unreadable loaded =>
    obtain ⟨-, ⟨f, failed⟩ | found⟩ := loaded.looked
    · cases failed
    · cases there : s.order? id <;> simp [there] at found
  | unfit loaded _ reviewed =>
    obtain ⟨rfl, -⟩ := loaded.looked
    obtain ⟨rfl, unchanged⟩ := reviewed.unchanged (asks_review settings _) still
    exact ⟨_, rfl, .inl (by simpa using unchanged)⟩
  | attempted _ _ _ _ _ message => exact ⟨_, rfl, .inr message⟩

theorem attemptMessage_notMem (success : Bool) : attemptMessage success ∉ Report.refusals := by
  cases success <;> decide

/-- **What the work on an order leaves alone.** Whatever fails on the way, processing an order, once
or again, has a report. It changes no other order and no product that is not on its lines, of the
order at most the status, the times of the last change and of the validation, and the ledger mark,
and of the products at most the stock; if the report says that the order was not taken on, it
changes nothing. Calling an order off changes no product and no other order, and of the order at
most the status, the times of the last change and of the calling off, and the reason; if it fails,
it changes nothing. This holds at every moment on the way. -/
theorem work_confined (now : Timestamp) (settings : OrderSettings)
    (named : ∀ o, s.order? id = some o → o.id = .text id) :
    (∀ ms a v, Runs (Disturbed now) (process now settings (.text id)) s ms a v →
      ∃ report, a = .ok report ∧
        (∀ u ∈ v :: states ms, s.Confined (s.partOf id) Order.Handled u) ∧
        (report.message ∈ Report.refusals → ∀ u ∈ v :: states ms, u = s)) ∧
    ∀ reason ms success v,
      Runs (Disturbed now) (cancel now settings (.text id) reason) s ms success v →
        (∀ u ∈ v :: states ms, s.Confined ⟨{.text id}, ∅⟩ Order.Recalled u) ∧
        (success = false → ∀ u ∈ v :: states ms, u = s) := by
  constructor
  · intro ms a v h
    have marks : ∀ e ∈ events ms, e.1.Marks Change.isOfProcessing :=
      fun e mem => (h.asked (asks_processing now settings _) e mem).marks
    have confined :=
      confined_of_run Order.allows_handled h (isWithin_of_disturbed named h) marks
    obtain ⟨report, rfl, still | message⟩ := still_or_attempted h
    · exact ⟨report, rfl, confined, fun _ => still⟩
    · refine ⟨report, rfl, confined, fun refused => ?_⟩
      rw [message] at refused
      exact absurd refused (attemptMessage_notMem _)
  · intro reason ms success v h
    have inside : Part.HasOrder ⟨{.text id}, ∅⟩ (.text id) := hasOrder_text rfl
    have within : ∀ e ∈ events ms, e.1.IsWithin ⟨{.text id}, ∅⟩ :=
      h.asked (asks_cancel inside trivial)
    have marks : ∀ e ∈ events ms, e.1.Marks Change.isOfCallingOff :=
      h.asked (asks_cancel (by simp [DeskCall.Marks, Change.isOfCallingOff]) trivial)
    refine ⟨confined_of_run Order.allows_recalled h within marks, ?_⟩
    rintro rfl
    cases callingOff_of_runs h with
    | refused calledOff refused =>
      obtain rfl := calledOff.refused (by simp [Change.isOfCourse]) refused
      simp

/-- Where the marks of the first order are declined it is pending again and its stock is gone, but
the second order is as it was. The second is not fit, and is left alone with all the rest. So is the
store where an order is called off that is not there. -/
theorem work_confined_sample :
    let s := MemoryStore.twoOrders
    (∀ id o, s.order? id = some o → o.id = .text id) ∧
    (∃ ms report v, Runs (Disturbed default) (process default {} "order-1") s ms (.ok report) v ∧
      report.message = "Error processing order" ∧
      v.products.entries.map (·.stock.text) = ["8", "2"] ∧
      s.Confined (s.partOf "order-1") Order.Handled v ∧ v.order? "order-2" = s.order? "order-2") ∧
    (∃ ms report v, Runs (Disturbed default) (process default {} "order-2") s ms (.ok report) v ∧
      report.message = "Order is not valid" ∧ v = s) ∧
    ∃ ms v, Runs (Disturbed default) (cancel default {} "order-3" .null) s ms false v ∧ v = s := by
  intro s
  have named (id : String) (o : Order) (found : s.order? id = some o) : o.id = .text id :=
    MemoryStore.identified_twoOrders.named found
  have lapse (s e u) (h : Environment.of (MemoryStore.lapsingDesk default) s e u) :
      Disturbed default s e u := disturbed_lapsingDesk h
  have confined (id : String) := work_confined default {} (named id)
  have attempted : ((process default {} "order-1").run (MemoryStore.lapsingDesk default)
      s).1.toOption.map (·.message) = some "Error processing order" := by decide +kernel
  have refused : ((process default {} "order-2").run (MemoryStore.lapsingDesk default)
      s).1.toOption.map (·.message) = some "Order is not valid" := by decide +kernel
  obtain ⟨report, reported, message⟩ := Option.map_eq_some_iff.mp attempted
  obtain ⟨report', reported', message'⟩ := Option.map_eq_some_iff.mp refused
  obtain ⟨ms, run⟩ := exists_runs_report lapse reported
  obtain ⟨ms', run'⟩ := exists_runs_report lapse reported'
  obtain ⟨ms'', run'', -⟩ :=
    runs_run (MemoryStore.lapsingDesk default) (cancel default {} "order-3" .null) s
  have run'' := run''.mono lapse
  obtain ⟨_, same, handled, -⟩ := (confined "order-1").1 _ _ _ run
  cases same
  obtain ⟨_, same, -, still⟩ := (confined "order-2").1 _ _ _ run'
  cases same
  have within := handled _ List.mem_cons_self
  have apart : (.text "order-2" : Name.Identity) ∈ (s.partOf "order-1").others.orders := by
    simp [Part.others, MemoryStore.partOf]
  refine ⟨named, ⟨ms, report, _, run, message, by decide +kernel, within, ?_⟩,
    ⟨ms', report', _, run', message', ?_⟩, ms'', _, run'', ?_⟩
  · exact within.elsewhere.orders _ apart
  · exact still (by rw [message']; decide) _ List.mem_cons_self
  · exact ((confined "order-3").2 _ _ _ _ run'').2 (by decide +kernel) _ List.mem_cons_self

end Processing

end Fulfilment
