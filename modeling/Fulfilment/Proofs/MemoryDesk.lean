import Fulfilment.Proofs.Attempt
import Fulfilment.Store.Memory

/-!
# A desk with a store in memory

The store in memory settles what a call on it does, and leaves open what the printer and the service
that tells customers reply. On top of that, any call may fail. A call that fails leaves the store as
it was, so a status write has one of two outcomes, and so has a write of a stock.

## Main definitions

* `MemoryStore.order?`, `MemoryStore.advance`, `MemoryStore.restock` - an order of the store, and
  the store after a write
* `MemoryStore.Proper` - the stores whose members are of the kinds that they should be
* `MemoryStore.Holds` - the order of an identifier is this one, in a status and with a ledger mark
* `Undisturbed` - the desk whose store carries out every call
* `Disturbed` - the desk at which any call may fail
* `Healthy` - the desk at which every call works
* `MemoryStore.desk`, `MemoryStore.sample` - a responder at such a desk, and a small store

## Main results

* `Disturbed.wrote`, `Disturbed.setStock` - the two outcomes of a write
* `Disturbed.accepted`, `Disturbed.refused` - what a status write leaves of an order
* `Undisturbed.wrote`, `Undisturbed.setStock` - the one outcome where the store carries it out
-/

namespace Fulfilment

/-- The products in stock. -/
abbrev Products := Catalog Name.Identity Product

/-- Whether all stocks are whole numbers. -/
def Counted (ps : Products) : Prop := ∀ key p, ps.get? key = some p → ∃ n, p.stock = .count n

namespace MemoryStore

variable {s : MemoryStore} {now : Timestamp} {id : String} {status : Status}
  {changes : List Change} {o : Order} {key name : Name.Identity} {p : Product} {stock : Quantity}

/-- The order of an identifier. -/
def order? (s : MemoryStore) (id : String) : Option Order := s.orders.get? (.text id)

/-- The store with a status and changes written to an order. -/
def advance (s : MemoryStore) (now : Timestamp) (id : String) (status : Status)
    (changes : List Change) (o : Order) : MemoryStore :=
  { s with
    orders := s.orders.put (.text id) (written now status changes o)
    history := s.history ++ [(.text id, status)] }

/-- The store with another stock of a product. -/
def restock (s : MemoryStore) (key : Name.Identity) (stock : Quantity) (p : Product) :
    MemoryStore :=
  { s with products := s.products.put key { p with stock := stock } }

/-- A store whose orders are entered under their identifiers, which are texts, and whose quantities
and stocks are whole numbers. -/
structure Proper (s : MemoryStore) : Prop where
  /-- No identifier occurs twice. -/
  names : s.orders.names.Nodup
  /-- An order is entered under its identifier. -/
  named : ∀ {key o}, s.orders.get? key = some o → ∃ id, key = .text id ∧ o.id = .text id
  /-- The lines order whole numbers of pieces. -/
  counted : ∀ {key o}, s.orders.get? key = some o → ∀ l ∈ o.lines, ∃ n, l.quantity = .count n
  /-- Whole numbers of pieces are in stock. -/
  stocked : Counted s.products

/-- What is needed to adjust the stock for an order: it is in the store under its identifier, and
the quantities of its lines and the stocks are whole numbers. -/
structure Ready (s : MemoryStore) (id : String) (o : Order) : Prop where
  /-- The order is found under the identifier. -/
  found : s.order? id = some o
  /-- The order bears the identifier. -/
  named : o.id = .text id
  /-- The lines order whole numbers of pieces. -/
  quantities : ∀ l ∈ o.lines, ∃ n, l.quantity = .count n
  /-- Whole numbers of pieces are in stock. -/
  stocked : Counted s.products

@[simp] theorem products_advance : (s.advance now id status changes o).products = s.products := rfl

@[simp] theorem order?_advance :
    (s.advance now id status changes o).order? id = some (written now status changes o) := by
  simp [order?, advance]

theorem get?_advance : (s.advance now id status changes o).orders.get? name =
    if .text id = name then some (written now status changes o) else s.orders.get? name := by
  simp [advance, Catalog.get?_put]

theorem names_advance {before : Order} (found : s.order? id = some before) :
    (s.advance now id status changes o).orders.names = s.orders.names :=
  Catalog.names_put_of_get? found _

@[simp] theorem orders_restock : (s.restock key stock p).orders = s.orders := rfl

@[simp] theorem order?_restock : (s.restock key stock p).order? id = s.order? id := rfl

theorem get?_restock : (s.restock key stock p).products.get? name =
    if key = name then some { p with stock := stock } else s.products.get? name := by
  simp [restock, Catalog.get?_put]

theorem product_eq_ok {pid : Value} : s.product pid = .ok (some p) ↔
    ∃ key, pid.identity = .ok key ∧ s.products.get? key = some p := by
  unfold product
  cases pid.identity <;> simp [Except.map]

theorem Proper.ready (proper : s.Proper) (found : s.order? id = some o) : s.Ready id o := by
  obtain ⟨other, same, named⟩ := proper.named found
  cases same
  exact ⟨found, named, proper.counted found, proper.stocked⟩

theorem counted_single {m : Int} (stock : p.stock = .count m) : Counted [(key, p)] := by
  intro name q there
  cases List.mem_singleton.mp (Catalog.get?_eq_some_of_mem there)
  exact ⟨m, stock⟩

/-- A store with one order, entered under its identifier, is proper. -/
theorem proper_single {ps : Products} (named : o.id = .text id)
    (quantities : ∀ l ∈ o.lines, ∃ n, l.quantity = .count n) (stocked : Counted ps) :
    Proper { orders := [(.text id, o)], products := ps } where
  names := by simp [Catalog.names]
  named found := by
    obtain ⟨name, same, mem⟩ := Catalog.get?_eq_some found
    cases List.mem_singleton.mp mem
    exact ⟨id, (beq_iff_eq.mp same).symm, named⟩
  counted found := by
    cases List.mem_singleton.mp (Catalog.get?_eq_some_of_mem found)
    exact quantities
  stocked := stocked

/-- A store with one product, of which there are so many pieces, and one pending order for so many
of them. -/
def sample (pieces ordered : Int) : MemoryStore where
  orders := [(.text "order-1",
    { id := "order-1"
      customerName := "Mona"
      customerEmail := "mona@example.com"
      lines := [⟨"p-1", "Desk Lamp", .count ordered, .ofInt 5⟩]
      total := .decimal (.ofInt (5 * ordered)) })]
  products := [(.text "p-1", ⟨"p-1", "Desk Lamp", .count pieces⟩)]

theorem proper_sample (pieces ordered : Int) : (sample pieces ordered).Proper :=
  proper_single rfl (by simp) (counted_single rfl)

end MemoryStore

/-! ### What a write leaves of an order -/

/-- Whether two orders agree in everything but how far they have come. -/
structure Order.SameContent (o o' : Order) : Prop where
  /-- They have the same identifier. -/
  id : o'.id = o.id
  /-- They name the same customer. -/
  customerName : o'.customerName = o.customerName
  /-- They give the same email address. -/
  customerEmail : o'.customerEmail = o.customerEmail
  /-- They order the same. -/
  lines : o'.lines = o.lines
  /-- They have the same total. -/
  total : o'.total = o.total

/-- The ledger mark after a change. -/
def Change.mark (mark : Value) : Change → Value
  | .stockAdjusted adjusted => adjusted
  | _ => mark

theorem Change.isKnown_of_isOfCourse {c : Change} (h : c.isOfCourse = true) : c.isKnown = true := by
  cases c <;> first | rfl | cases h

namespace Order.SameContent

theorem refl (o : Order) : o.SameContent o := ⟨rfl, rfl, rfl, rfl, rfl⟩

theorem trans {o o' o'' : Order} (h : o.SameContent o') (h' : o'.SameContent o'') :
    o.SameContent o'' where
  id := h'.id.trans h.id
  customerName := h'.customerName.trans h.customerName
  customerEmail := h'.customerEmail.trans h.customerEmail
  lines := h'.lines.trans h.lines
  total := h'.total.trans h.total

theorem apply {c : Change} (course : c.isOfCourse = true) (o : Order) :
    o.SameContent (o.apply c) := by
  cases c <;> first | exact ⟨rfl, rfl, rfl, rfl, rfl⟩ | cases course

end Order.SameContent

theorem Order.stockAdjusted_apply (o : Order) (c : Change) :
    (o.apply c).stockAdjusted = c.mark o.stockAdjusted := by
  cases c <;> rfl

namespace MemoryStore

variable {s : MemoryStore} {now : Timestamp} {id : String} {status : Status}
  {changes : List Change} {o : Order}

/-- A write changes no more than how far the order has come. -/
theorem sameContent_written (course : ∀ c ∈ changes, c.isOfCourse = true) :
    o.SameContent (written now status changes o) := by
  have first : o.SameContent { o with status := status, updatedAt := .timestamp now } :=
    ⟨rfl, rfl, rfl, rfl, rfl⟩
  -- The status is written first, and the induction is on the changes that follow.
  suffices h : ∀ p : Order, p.SameContent (changes.foldl Order.apply p) from first.trans (h _)
  clear first
  induction changes with
  | nil => exact .refl
  | cons c cs ih =>
    intro p
    have rest := ih fun c' mem => course c' (List.mem_cons_of_mem c mem)
    exact .trans (.apply (course c List.mem_cons_self) p) (rest _)

theorem stockAdjusted_written : (written now status changes o).stockAdjusted =
    changes.foldl Change.mark o.stockAdjusted := by
  suffices h : ∀ p : Order, (changes.foldl Order.apply p).stockAdjusted =
      changes.foldl Change.mark p.stockAdjusted from h _
  induction changes with
  | nil => intro p; rfl
  | cons c cs ih => intro p; simp [ih, Order.stockAdjusted_apply]

/-- Whether the store has an order, whose content is that of another, in a status and with a ledger
mark. -/
def Holds (s : MemoryStore) (id : String) (o : Order) (status : Status) (mark : Value) : Prop :=
  ∃ o', s.order? id = some o' ∧ o.SameContent o' ∧ o'.status = status ∧ o'.stockAdjusted = mark

theorem holds_of_order? (found : s.order? id = some o) : s.Holds id o o.status o.stockAdjusted :=
  ⟨o, found, .refl o, rfl, rfl⟩

end MemoryStore

/-! ### What the desk allows -/

/-- The store carries out every call on it, and the other calls leave it alone. -/
def Undisturbed (now : Timestamp) : DeskEnvironment MemoryStore
  | s, ⟨.store c, r⟩, u => MemoryStore.respond now c s = (r, u)
  | s, _, u => u = s

/-- A desk at which every call works. All receipts read the same. -/
def MemoryStore.desk (now : Timestamp) : Program.Responder DeskCall DeskCall.Reply MemoryStore
  | .store c, s => s.respond now c
  | .print _, s => (.ok "Receipt", s)
  | .confirm .., s => (.ok true, s)
  | .tell .., s => (.ok true, s)
  | .pause _, s => ((), s)

/-- Whether a call fails: it is answered with a failure, or what was to be written is declined. The
printer and the service that tells customers may answer as they like. -/
def Fails : DeskEvent → Prop
  | ⟨.store (.write ..), r⟩ => taken r = false
  | ⟨.store (.setStock ..), r⟩ => taken r = false
  | ⟨.store c, r⟩ => ∃ f, r = c.failed f
  | _ => True

/-- The store carries out a call on it, or the call fails and nothing changes. -/
def Disturbed (now : Timestamp) : DeskEnvironment MemoryStore := fun s e u =>
  Undisturbed now s e u ∨ (Fails e ∧ u = s)

/-- Every call works. -/
def Healthy (now : Timestamp) : DeskEnvironment MemoryStore
  | s, ⟨.store c, r⟩, u => MemoryStore.respond now c s = (r, u)
  | s, ⟨.print _, r⟩, u => (∃ receipt, r = .ok receipt) ∧ u = s
  | s, ⟨.confirm .., r⟩, u => r = .ok true ∧ u = s
  | s, ⟨.tell .., r⟩, u => r = .ok true ∧ u = s
  | s, ⟨.pause _, _⟩, u => u = s

variable {s u : MemoryStore} {now : Timestamp} {id : String} {status : Status}
  {changes : List Change} {o : Order} {e : DeskEvent} {pid : Value} {stock : Quantity}

theorem Undisturbed.disturbed (h : Undisturbed now s e u) : Disturbed now s e u := .inl h

theorem Healthy.undisturbed (h : Healthy now s e u) : Undisturbed now s e u := by
  obtain ⟨_ | _ | _ | _ | _, r⟩ := e
  · exact h
  · exact h.2
  · exact h.2
  · exact h.2
  · exact h

theorem healthy_desk (h : Program.Environment.of (MemoryStore.desk now) s e u) :
    Healthy now s e u := by
  obtain ⟨_ | _ | _ | _ | _, r⟩ := e
  case store => exact h
  all_goals cases h
  · exact ⟨⟨_, rfl⟩, rfl⟩
  · exact ⟨rfl, rfl⟩
  · exact ⟨rfl, rfl⟩
  · exact rfl

/-- A run of a responder, as a run at a desk that allows its replies. -/
theorem exists_runs_report {respond : Program.Responder DeskCall DeskCall.Reply MemoryStore}
    {env : DeskEnvironment MemoryStore} {p : DeskProgram (Except Failure Report)} {report : Report}
    (le : ∀ s e u, Program.Environment.of respond s e u → env s e u)
    (reported : (p.run respond s).1.toOption = some report) :
    ∃ ms, Program.Runs env p s ms (.ok report) (p.run respond s).2 := by
  obtain ⟨ms, run, -⟩ := Program.runs_run respond p s
  generalize (p.run respond s).1 = a at run reported
  cases a with
  | error f => cases reported
  | ok r =>
    cases reported
    exact ⟨ms, run.mono le⟩

namespace MemoryStore

theorem write_text (course : ∀ c ∈ changes, c.isOfCourse = true) (found : s.order? id = some o) :
    s.write now (.text id) status changes =
      (.ok (.bool true), s.advance now id status changes o) :=
  write_eq_ok_true found fun c mem => Change.isKnown_of_isOfCourse (course c mem)

theorem write_text_of_none (missing : s.order? id = none) :
    s.write now (.text id) status changes = (.ok (.bool false), s) := by
  have missing : s.orders.get? (.text id) = none := missing
  simp [write, missing]

end MemoryStore

/-! ### The outcomes of a call -/

/-- An order that is there bears the status. -/
theorem Undisturbed.wrote {r : Except Failure Value} (course : ∀ c ∈ changes, c.isOfCourse = true)
    (found : s.order? id = some o)
    (h : Undisturbed now s (Fulfilment.wrote (.text id) status changes r) u) :
    taken r = true ∧ u = s.advance now id status changes o := by
  have replied : s.write now (.text id) status changes = (r, u) := h
  rw [MemoryStore.write_text course found] at replied
  cases replied
  exact ⟨rfl, rfl⟩

/-- A status write is taken or not. -/
theorem Disturbed.wrote {r : Except Failure Value} (course : ∀ c ∈ changes, c.isOfCourse = true)
    (h : Disturbed now s (Fulfilment.wrote (.text id) status changes r) u) :
    (taken r = true ∧ ∃ o, s.order? id = some o ∧ u = s.advance now id status changes o) ∨
      (taken r = false ∧ u = s) := by
  rcases h with carried | ⟨fails, rfl⟩
  -- The store itself declines a write only where there is no such order.
  · cases found : s.order? id with
    | some o =>
      obtain ⟨accepted, rfl⟩ := carried.wrote course found
      exact .inl ⟨accepted, o, rfl, rfl⟩
    | none =>
      have replied : s.write now (.text id) status changes = (r, u) := carried
      rw [MemoryStore.write_text_of_none found] at replied
      cases replied
      exact .inr ⟨rfl, rfl⟩
  · exact .inr ⟨fails, rfl⟩

/-- A status write that is not taken changes nothing. -/
theorem Disturbed.refused {r : Except Failure Value} (course : ∀ c ∈ changes, c.isOfCourse = true)
    (h : Disturbed now s (Fulfilment.wrote (.text id) status changes r) u)
    (refused : taken r = false) : u = s := by
  rcases h.wrote course with ⟨accepted, -⟩ | ⟨-, same⟩
  · rw [refused] at accepted
    cases accepted
  · exact same

/-- After a status write that is taken the order is in that status. -/
theorem Disturbed.accepted {r : Except Failure Value} {before : Status} {mark : Value}
    (course : ∀ c ∈ changes, c.isOfCourse = true)
    (h : Disturbed now s (Fulfilment.wrote (.text id) status changes r) u)
    (accepted : taken r = true) (holds : s.Holds id o before mark) :
    u.Holds id o status (changes.foldl Change.mark mark) ∧ u.products = s.products := by
  rcases h.wrote course with ⟨-, o', found, rfl⟩ | ⟨refused, -⟩
  · obtain ⟨p, same, content, -, rfl⟩ := holds
    rw [found] at same
    cases same
    refine ⟨⟨_, MemoryStore.order?_advance, ?_, ?_, ?_⟩, rfl⟩
    · exact content.trans (MemoryStore.sameContent_written course)
    · exact MemoryStore.status_written ..
    · exact MemoryStore.stockAdjusted_written
  · rw [accepted] at refused
    cases refused

/-- An order that is marked as validated and then as being processed bears the second mark. -/
theorem Disturbed.opened {r r' : Except Failure Value} {v : MemoryStore} {before : Status}
    {mark : Value} (holds : s.Holds id o before mark)
    (validated : Disturbed now s
      (Fulfilment.wrote (.text id) .validated [.validatedAt (.timestamp now)] r) u)
    (accepted : taken r = true)
    (marked : Disturbed now u (Fulfilment.wrote (.text id) .processing [] r') v)
    (accepted' : taken r' = true) :
    v.Holds id o .processing mark ∧ v.products = s.products := by
  obtain ⟨first, same⟩ := validated.accepted (by simp [Change.isOfCourse]) accepted holds
  obtain ⟨second, same'⟩ := marked.accepted (by simp) accepted' first
  exact ⟨second, same'.trans same⟩

theorem Undisturbed.accepts {r : Except Failure Value} {before : Status} {mark : Value}
    (course : ∀ c ∈ changes, c.isOfCourse = true) (holds : s.Holds id o before mark)
    (h : Undisturbed now s (Fulfilment.wrote (.text id) status changes r) u) :
    taken r = true := by
  obtain ⟨o', found, -⟩ := holds
  exact (h.wrote course found).1

/-- A product that is there gets the stock. -/
theorem Undisturbed.setStock {r : Except Failure Value} {p : Product}
    (found : s.product pid = .ok (some p))
    (h : Undisturbed now s ⟨.store (.setStock pid stock), r⟩ u) :
    taken r = true ∧ ∃ key, pid.identity = .ok key ∧ s.products.get? key = some p ∧
      u = s.restock key stock p := by
  have replied : s.setStock pid stock = (r, u) := h
  obtain ⟨key, named, there⟩ := MemoryStore.product_eq_ok.mp found
  simp only [MemoryStore.setStock, named, there] at replied
  cases replied
  exact ⟨rfl, key, named, there, rfl⟩

/-- A stock is written or not. -/
theorem Disturbed.setStock {r : Except Failure Value}
    (h : Disturbed now s ⟨.store (.setStock pid stock), r⟩ u) :
    (taken r = true ∧ ∃ key p, pid.identity = .ok key ∧ s.products.get? key = some p ∧
        u = s.restock key stock p) ∨
      (taken r = false ∧ u = s) := by
  rcases h with carried | ⟨fails, rfl⟩
  · have replied : s.setStock pid stock = (r, u) := carried
    unfold MemoryStore.setStock at replied
    split at replied
    · cases replied
      exact .inr ⟨rfl, rfl⟩
    next key named =>
      split at replied
      · cases replied
        exact .inr ⟨rfl, rfl⟩
      next p there =>
        cases replied
        exact .inl ⟨rfl, key, p, named, there, rfl⟩
  · exact .inr ⟨fails, rfl⟩

/-- An order is looked for with success or not. -/
theorem Disturbed.looked {r : Except Failure (Found Order)}
    (h : Disturbed now s (Fulfilment.looked (.text id) r) u) :
    u = s ∧ ((∃ f, r = .error f) ∨ r = .ok (.ofOption (s.order? id))) := by
  rcases h with carried | ⟨⟨f, rfl⟩, rfl⟩
  · cases carried
    exact ⟨rfl, .inr rfl⟩
  · exact ⟨rfl, .inl ⟨f, rfl⟩⟩

/-- A product is looked for with success or not. -/
theorem Disturbed.product {r : Except Failure (Found Product)}
    (h : Disturbed now s ⟨.store (.product pid), r⟩ u) :
    u = s ∧ ((∃ f, r = .error f) ∨ r = (s.product pid).map .ofOption) := by
  rcases h with carried | ⟨⟨f, rfl⟩, rfl⟩
  · cases carried
    exact ⟨rfl, .inr rfl⟩
  · exact ⟨rfl, .inl ⟨f, rfl⟩⟩

/-- The store is left alone, or as a call on it leaves it. -/
theorem Disturbed.eq_or_respond (h : Disturbed now s e u) :
    u = s ∨ ∃ c, e.1 = .store c ∧ u = (s.respond now c).2 := by
  rcases h with carried | ⟨-, rfl⟩
  · obtain ⟨c | _ | _ | _ | _, r⟩ := e
    case store => exact .inr ⟨c, rfl, (congrArg Prod.snd carried).symm⟩
    all_goals exact .inl carried
  · exact .inl rfl

/-- The store is left alone by what is no call on it. -/
theorem Disturbed.aside (h : Disturbed now s e u) (aside : ∀ c, e.1 ≠ .store c) : u = s := by
  rcases h.eq_or_respond with same | ⟨c, asked, -⟩
  · exact same
  · exact absurd asked (aside c)

/-- Reading leaves the store alone. -/
theorem Disturbed.read (reads : e.1.IsRead) (h : Disturbed now s e u) : u = s := by
  rcases h.eq_or_respond with same | ⟨c, asked, rfl⟩
  · exact same
  · rw [asked] at reads
    cases c <;> first | rfl | cases reads

end Fulfilment
