import Fulfilment.Proofs.Locality

/-!
# Independent orders

Processing an order works with this order and with the products of its lines, and with nothing else
in the store: whatever comes of it, it asks for the order by its identifier, and what it is told of
the lines is what it asks for next. So two orders without a common product do not get in the way of
each other, and it does not matter which of them is processed first.

## Main definitions

* `Order.Belongs` - whether an order has its identifier, and its products are in a part
* `MemoryStore.partOf` - an order with its products, as a part of a store
* `MemoryStore.Independent` - whether two orders have no product in common
* `Rehearsal.Desk.Commute` - whether two orders can be processed in either order

## Main results

* `MemoryStore.imprint_respond` - no call changes the identifier or the lines of an order
* `Processing.Course.isWithin` - what the processing of an order works with
* `Processing.process_comm` - independent orders can be processed in either order
-/

namespace Fulfilment

open Program Rehearsal

/-- Whether an order has an identifier, and the products of its lines are in a part. -/
structure Order.Belongs (P : Part) (id : String) (o : Order) : Prop where
  named : o.id = .text id
  products : ∀ l ∈ o.lines, P.HasProduct l.productId

/-- Whether an event tells of no other order under an identifier than one that belongs there. -/
def Regular (P : Part) (id : String) : DeskEvent → Prop
  | ⟨.store (.find (.text other)), .ok (.entry o)⟩ => other = id → o.Belongs P id
  | _ => True

variable {P Q : Part} {id : String}

/-! ### What never changes of an order -/

namespace MemoryStore

variable {s u : MemoryStore} {now : Timestamp} {o : Order} {status : Status}
  {changes : List Change}

/-- The identifier and the lines of an order in the store. -/
def imprint (s : MemoryStore) (id : String) : Option (Value × List Line) :=
  (s.order? id).map fun o => (o.id, o.lines)

theorem lines_written (o : Order) : (written now status changes o).lines = o.lines := by
  -- For any order to begin with, since the changes are made to one in the new status.
  suffices h : ∀ p : Order, (changes.foldl Order.apply p).lines = p.lines from h _
  induction changes with
  | nil => intro p; rfl
  | cons c cs ih => intro p; simp [ih]

/-- No call gives an order another identifier or other lines. -/
theorem imprint_respond (s : MemoryStore) (now : Timestamp) (c : StoreCall) :
    (s.respond now c).2.imprint id = s.imprint id := by
  cases c with
  | write other status changes =>
    change (s.write now other status changes).2.imprint id = _
    rcases result : s.write now other status changes with ⟨reply, u⟩
    rcases write_cases result with ⟨-, rfl⟩ | ⟨key, o, -, found, -, rfl⟩
    · rfl
    · by_cases same : key = .text id
      · subst same
        simp [imprint, order?, found, id_written, lines_written]
      · simp [imprint, order?, Catalog.get?_put, same]
  | setStock product stock =>
    have kept : (s.setStock product stock).2.orders = s.orders := orders_setStock rfl
    change (s.setStock product stock).2.imprint id = _
    rw [imprint, order?, kept]
    rfl
  | _ => rfl

/-- Whether the order under an identifier belongs there, if there is one. -/
def Owns (P : Part) (id : String) (s : MemoryStore) : Prop :=
  ∀ o, s.order? id = some o → o.Belongs P id

theorem Owns.of_imprint (h : s.Owns P id) (same : u.imprint id = s.imprint id) : u.Owns P id := by
  intro o found
  rw [imprint, found, imprint] at same
  obtain ⟨o', found', same⟩ := Option.map_eq_some_iff.mp same.symm
  obtain ⟨sameId, sameLines⟩ := Prod.mk.inj same
  obtain ⟨named, products⟩ := h o' found'
  exact ⟨sameId ▸ named, sameLines ▸ products⟩

end MemoryStore

/-! ### At the desk -/

namespace Rehearsal.Desk

variable {d : Desk}

/-- An order is processed at a desk. -/
def attend (now : Timestamp) (settings : OrderSettings) (id : String) (d : Desk) :
    Except Failure Report × Desk :=
  (Processing.process now settings (.text id)).run respond d

/-- Whether it does not matter which of two orders is processed first: each of them has the report
that it has alone, and in the end every order and every product is the same. -/
structure Commute (now : Timestamp) (settings : OrderSettings) (a b : String) (d : Desk) :
    Prop where
  first : ((d.attend now settings b).2.attend now settings a).1 = (d.attend now settings a).1
  second : ((d.attend now settings a).2.attend now settings b).1 = (d.attend now settings b).1
  stores : ∃ u v, ((d.attend now settings a).2.attend now settings b).2.store = .memory u ∧
    ((d.attend now settings b).2.attend now settings a).2.store = .memory v ∧
    (∀ key, v.orders.get? key = u.orders.get? key) ∧
    ∀ key, v.products.get? key = u.products.get? key

/-- Whether a desk without faults has a store in memory, in which the order under an identifier
belongs there. -/
def Owns (P : Part) (id : String) (d : Desk) : Prop :=
  d.faults = [] ∧ ∃ s, d.store = .memory s ∧ s.Owns P id

theorem Owns.respond (h : d.Owns P id) (c : DeskCall) : (d.respond c).2.Owns P id := by
  obtain ⟨faultless, s, memory, owns⟩ := h
  cases c with
  | store c =>
    rw [respond_store faultless memory]
    exact ⟨faultless, _, rfl, owns.of_imprint (MemoryStore.imprint_respond s d.now c)⟩
  | print id' =>
    rw [respond_print faultless memory]
    exact ⟨faultless, s, memory, owns⟩
  | confirm | tell =>
    obtain ⟨setting, store⟩ := setting_deliver _ d
    exact ⟨(congrArg Desk.faults setting).trans faultless, s, store.trans memory, owns⟩
  | pause seconds => exact ⟨faultless, s, memory, owns⟩

theorem Owns.regular (h : d.Owns P id) (c : DeskCall) : Regular P id ⟨c, (d.respond c).1⟩ := by
  obtain ⟨faultless, s, memory, owns⟩ := h
  unfold Regular
  split
  next other o looked =>
    obtain ⟨rfl, found⟩ := Sigma.mk.inj looked
    rw [respond_store faultless memory] at found
    rintro rfl
    have there : s.order? other = some o := by
      simpa [MemoryStore.respond, MemoryStore.order?, Except.map, Found.ofOption_eq_entry] using
        eq_of_heq found
    exact owns o there
  next => trivial

end Rehearsal.Desk

/-! ### Processing an order -/

namespace Processing

open MemoryStore

variable {σ : Type} {env : DeskEnvironment σ} {now : Timestamp} {settings : OrderSettings}
  {o : Order} {s v : σ} {ms : List (DeskMoment σ)} {success : Bool}

variable (inside : Name.Identity.text id ∈ P.orders)
  (regular : ∀ s e u, env s e u → Regular P id e)

include inside

theorem hasOrder_text : P.HasOrder (.text id) := by
  intro key named
  cases named
  exact inside

theorem Adjustment.isWithin (belongs : o.Belongs P id) (h : Adjustment env o s ms v) :
    ∀ e ∈ events ms, e.1.IsWithin P := by
  have order := hasOrder_text inside
  rw [← belongs.named] at order
  cases h with
  | skipped => simp
  | made reply unmarked lines mark =>
    rw [events_append, List.forall_mem_append]
    have asks : (adjustLines o.lines).Asks (DeskCall.IsWithin P) :=
      asks_adjustLines_of_each fun l mem =>
        ⟨belongs.products l mem, fun _ => belongs.products l mem⟩
    exact ⟨lines.asked asks, by simpa using order⟩

theorem Closing.isWithin (belongs : o.Belongs P id) (h : Closing env o s ms success v) :
    ∀ e ∈ events ms, e.1.IsWithin P := by
  have order := hasOrder_text inside
  rw [← belongs.named] at order
  cases h with
  | uncompleted adjusted =>
    rw [events_append, List.forall_mem_append]
    exact ⟨adjusted.isWithin inside belongs, by simpa using order⟩
  | completed adjusted =>
    rw [events_append, List.forall_mem_append]
    exact ⟨adjusted.isWithin inside belongs, by simpa using order⟩

theorem Passage.isWithin (belongs : o.Belongs P id) (h : Passage env now o s ms success v) :
    ∀ e ∈ events ms, e.1.IsWithin P := by
  have order := hasOrder_text inside
  rw [← belongs.named] at order
  cases h with
  | unvalidated => simpa using order
  | unmarked => simpa using order
  | unprinted => simpa using order
  | printed _ _ _ _ _ _ _ closing =>
    simp only [events_cons, List.forall_mem_cons]
    exact ⟨order, order, order, trivial, closing.isWithin inside belongs⟩

theorem Attempt.isWithin (belongs : o.Belongs P id)
    (h : Attempt env now o (.text id) s ms success v) : ∀ e ∈ events ms, e.1.IsWithin P := by
  cases h with
  | passed passage => exact passage.isWithin inside belongs
  | undone r passage =>
    rw [events_append, List.forall_mem_append]
    exact ⟨passage.isWithin inside belongs, by simpa using hasOrder_text inside⟩

include regular

theorem isWithin_review {review : Review}
    (h : Runs env (Validation.review settings (.text id)).atDesk s ms review v) :
    ∀ e ∈ events ms, e.1.IsWithin P := by
  obtain ⟨reply, u, ns, found, rest, rfl⟩ := runs_call_iff.mp h
  rw [events_cons, List.forall_mem_cons]
  refine ⟨hasOrder_text inside, ?_⟩
  rcases reply with f | (_ | o | w)
  -- Only an order leads further; any other reply ends the review.
  case ok.entry =>
    have belongs : o.Belongs P id := regular _ _ _ found rfl
    dsimp only at rest
    split at rest
    · obtain ⟨rfl, -, -⟩ := runs_done_iff.mp rest
      simp
    · rw [Program.map, StoreProgram.atDesk_bind] at rest
      exact rest.asked (asks_bind (asks_checkStock belongs.products) fun _ => trivial)
  all_goals
    obtain ⟨rfl, -, -⟩ := runs_done_iff.mp rest
    simp

/-- The processing of an order works with the order and with the products of its lines. -/
theorem Course.isWithin {a : Except Failure Report}
    (h : Course env now settings (.text id) s ms a v) : ∀ e ∈ events ms, e.1.IsWithin P := by
  have order := hasOrder_text inside
  cases h with
  | unread => simpa using order
  | missing => simpa using order
  | unreadable => simpa using order
  | closed => simpa using order
  | unfit _ _ reviewed =>
    rw [events_cons, List.forall_mem_cons]
    exact ⟨order, isWithin_review inside regular reviewed⟩
  | attempted loaded _ reviewed _ attempt =>
    rw [events_cons, List.forall_mem_cons, events_append, List.forall_mem_append]
    exact ⟨order, isWithin_review inside regular reviewed,
      attempt.isWithin inside (regular _ _ _ loaded rfl)⟩

end Processing

/-! ### Two orders -/

namespace MemoryStore

variable {s : MemoryStore}

/-- An order with the products of its lines, as a part of the store. -/
def partOf (s : MemoryStore) (id : String) : Part where
  orders := {.text id}
  products := {key | ∃ o, s.order? id = some o ∧ ∃ l ∈ o.lines, l.productId.identity = .ok key}

theorem owns_partOf_of_named (named : ∀ o, s.order? id = some o → o.id = .text id) :
    s.Owns (s.partOf id) id :=
  fun o found => ⟨named o found, fun l mem _ pid => ⟨o, found, l, mem, pid⟩⟩

theorem owns_partOf (identified : s.Identified) : s.Owns (s.partOf id) id :=
  owns_partOf_of_named fun _ => identified.named

/-- Whether no line of one order names the product of a line of another. -/
def Independent (s : MemoryStore) (a b : String) : Prop :=
  ∀ o o', s.order? a = some o → s.order? b = some o' → ∀ l ∈ o.lines, ∀ l' ∈ o'.lines, ∀ key,
    l.productId.identity = .ok key → l'.productId.identity ≠ .ok key

theorem Independent.isApart {a b : String} (h : s.Independent a b) (distinct : a ≠ b) :
    (s.partOf a).IsApart (s.partOf b) where
  orders := by
    rintro key rfl same
    exact distinct (Name.Identity.text.inj same)
  products := by
    rintro key ⟨o, found, l, mem, named⟩ ⟨o', found', l', mem', named'⟩
    exact h o o' found found' l mem l' mem' key named named'

end MemoryStore

namespace Processing

/-- The processing of an order at a desk works with a part that the order belongs to. -/
theorem isWithin_process {d : Desk} (owns : d.Owns P id) (inside : Name.Identity.text id ∈ P.orders)
    (now : Timestamp) (settings : OrderSettings) :
    ∀ e ∈ (process now settings (.text id)).trace Desk.respond d, e.1.IsWithin P := by
  obtain ⟨ms, run, calls⟩ := runs_run Desk.respond (process now settings (.text id)) d
  rw [← calls]
  have regular : Runs (fun _ e _ => Regular P id e) _ _ _ _ _ :=
    run.mono_of_keeps owns fun d e u kept answered => by
      have replied : Desk.respond e.1 d = (e.2, u) := answered
      have same : e.2 = (Desk.respond e.1 d).1 := by rw [replied]
      have after : u = (Desk.respond e.1 d).2 := by rw [replied]
      constructor
      · obtain ⟨c, r⟩ := e
        obtain rfl : r = (Desk.respond c d).1 := same
        exact kept.regular c
      · exact after ▸ kept.respond e.1
  exact (course_of_runs regular).isWithin inside fun _ _ _ allowed => allowed

/-- Two orders without a common product can be processed in either order. -/
theorem process_comm {d : Desk} {s : MemoryStore} {a b : String} (faultless : d.faults = [])
    (memory : d.store = .memory s) (identified : s.Identified) (distinct : a ≠ b)
    (independent : s.Independent a b) (now : Timestamp) (settings : OrderSettings) :
    d.Commute now settings a b := by
  have owns (id : String) : d.Owns (s.partOf id) id :=
    ⟨faultless, s, memory, MemoryStore.owns_partOf identified⟩
  obtain ⟨second, first, -, -, u, v, after, after', agree⟩ :=
    Desk.run_comm (independent.isApart distinct)
      (isWithin_process (owns a) rfl now settings) (isWithin_process (owns b) rfl now settings)
      faultless memory
  exact ⟨first, second, u, v, after, after', fun key => agree.orders key trivial,
    fun key => agree.products key trivial⟩

end Processing

/-- A store with two pending orders for different products. The first order is covered by the stock,
the second is not. -/
def MemoryStore.twoOrders : MemoryStore where
  orders := [
    (.text "order-1",
      { id := "order-1"
        customerName := "Mona"
        customerEmail := "mona@example.com"
        lines := [⟨"p-1", "Desk Lamp", .count 2, .ofInt 5⟩]
        total := .decimal (.ofInt 10) }),
    (.text "order-2",
      { id := "order-2"
        customerName := "Nils"
        customerEmail := "nils@example.com"
        lines := [⟨"p-2", "Desk", .count 3, .ofInt 80⟩]
        total := .decimal (.ofInt 240) })]
  products := [
    (.text "p-1", ⟨"p-1", "Desk Lamp", .count 10⟩), (.text "p-2", ⟨"p-2", "Desk", .count 2⟩)]

theorem MemoryStore.identified_twoOrders : twoOrders.Identified := by
  intro e mem
  simp only [twoOrders, List.mem_cons, List.not_mem_nil, or_false] at mem
  rcases mem with rfl | rfl
  · exact ⟨"order-1", rfl, rfl⟩
  · exact ⟨"order-2", rfl, rfl⟩

theorem MemoryStore.independent_twoOrders : twoOrders.Independent "order-1" "order-2" := by
  intro o o' found found' l mem l' mem' key named
  cases found
  cases found'
  cases List.mem_singleton.mp mem
  cases List.mem_singleton.mp mem'
  cases named
  simp [Name.identity]

namespace Processing

/-- The first order is completed and the second is not fit, whichever comes first. -/
theorem process_comm_sample :
    let s := MemoryStore.twoOrders
    let d : Desk :=
      { now := default, store := .memory s
        notifier := .outbox (fun _ => false) (fun _ => none) }
    d.faults = [] ∧ s.Identified ∧ "order-1" ≠ "order-2" ∧ s.Independent "order-1" "order-2" ∧
    (d.attend default {} "order-1").1.toOption.map (·.success) = some true ∧
    (d.attend default {} "order-2").1.toOption.map (·.success) = some false ∧
    d.Commute default {} "order-1" "order-2" := by
  intro s d
  have identified := MemoryStore.identified_twoOrders
  have distinct : "order-1" ≠ "order-2" := by decide
  have independent := MemoryStore.independent_twoOrders
  exact ⟨rfl, identified, distinct, independent, by decide +kernel, by decide +kernel,
    process_comm rfl rfl identified distinct independent default {}⟩

end Processing

end Fulfilment
