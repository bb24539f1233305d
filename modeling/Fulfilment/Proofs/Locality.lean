import Fulfilment.Proofs.Stores
import Mathlib.Data.Set.Insert

/-!
# Work on a part of a store

A call on a store names an order or a product. Its reply depends on what the store has under this
name, and it changes nothing else. So whoever works with one part of a store does not notice the
other parts, and leaves them alone; and two programs that work with parts which have nothing in
common can be run in either order, with the same results and the same store in the end.

This is about a desk with a store in memory and without faults. What is noted down at the desk - the
notices, the requests and the pauses - is nobody's concern.

## Main definitions

* `Part` - a part of a store: some orders and some products
* `MemoryStore.AgreeOn` - whether two stores have the same in a part
* `StoreCall.IsWithin`, `DeskCall.IsWithin` - whether a call works with a part
* `Rehearsal.Desk.Alike` - two desks that differ in what lies outside a part

## Main results

* `MemoryStore.respond_agreeOn`, `MemoryStore.respond_elsewhere` - a call within a part
* `Rehearsal.Desk.run_alike`, `Rehearsal.Desk.run_elsewhere` - a program within a part
* `Rehearsal.Desk.run_comm` - two programs within parts that have nothing in common
-/

namespace Fulfilment

open Program

/-- A part of a store, by the identities of its orders and its products. -/
structure Part where
  /-- The orders. -/
  orders : Set Name.Identity
  /-- The products. -/
  products : Set Name.Identity

namespace Part

/-- All orders and products. -/
def whole : Part := ⟨Set.univ, Set.univ⟩

/-- What is not in a part. -/
def others (P : Part) : Part := ⟨P.ordersᶜ, P.productsᶜ⟩

/-- What is in both of two parts. -/
def both (P Q : Part) : Part := ⟨P.orders ∩ Q.orders, P.products ∩ Q.products⟩

/-- Whether an identifier is that of an order in the part, unless it is that of none at all. -/
def HasOrder (P : Part) (id : Value) : Prop := ∀ key, id.identity = .ok key → key ∈ P.orders

/-- Whether an identifier is that of a product in the part, unless it is that of none at all. -/
def HasProduct (P : Part) (id : Value) : Prop := ∀ key, id.identity = .ok key → key ∈ P.products

/-- Whether two parts have nothing in common. -/
structure IsApart (P Q : Part) : Prop where
  orders : ∀ key ∈ P.orders, key ∉ Q.orders
  products : ∀ key ∈ P.products, key ∉ Q.products

theorem IsApart.symm {P Q : Part} (h : P.IsApart Q) : Q.IsApart P :=
  ⟨fun key mem mem' => h.orders key mem' mem, fun key mem mem' => h.products key mem' mem⟩

end Part

variable {P Q : Part}

/-! ### Stores -/

namespace MemoryStore

/-- Whether two stores have the same orders and products in a part. -/
structure AgreeOn (P : Part) (s s' : MemoryStore) : Prop where
  orders : ∀ key ∈ P.orders, s'.orders.get? key = s.orders.get? key
  products : ∀ key ∈ P.products, s'.products.get? key = s.products.get? key

variable {s s' s'' : MemoryStore} {now : Timestamp} {c : StoreCall}

namespace AgreeOn

theorem refl (P : Part) (s : MemoryStore) : AgreeOn P s s := ⟨fun _ _ => rfl, fun _ _ => rfl⟩

theorem symm (h : AgreeOn P s s') : AgreeOn P s' s :=
  ⟨fun key mem => (h.orders key mem).symm, fun key mem => (h.products key mem).symm⟩

theorem trans (h : AgreeOn P s s') (h' : AgreeOn P s' s'') : AgreeOn P s s'' where
  orders key mem := (h'.orders key mem).trans (h.orders key mem)
  products key mem := (h'.products key mem).trans (h.products key mem)

/-- What lies outside of one part is nothing of the other. -/
theorem of_isApart (apart : P.IsApart Q) (h : AgreeOn Q.others s s') : AgreeOn P s s' where
  orders key mem := h.orders key (apart.orders key mem)
  products key mem := h.products key (apart.products key mem)

theorem both_left (h : AgreeOn P s s') : AgreeOn (P.both Q) s s' :=
  ⟨fun key mem => h.orders key mem.1, fun key mem => h.products key mem.1⟩

theorem both_right (h : AgreeOn Q s s') : AgreeOn (P.both Q) s s' :=
  ⟨fun key mem => h.orders key mem.2, fun key mem => h.products key mem.2⟩

/-- Two stores that agree on two parts and on what is in neither agree on everything. -/
theorem whole (first : AgreeOn P s s') (second : AgreeOn Q s s')
    (rest : AgreeOn (P.others.both Q.others) s s') : AgreeOn .whole s s' where
  orders key _ := by
    by_cases inP : key ∈ P.orders
    · exact first.orders key inP
    by_cases inQ : key ∈ Q.orders
    · exact second.orders key inQ
    exact rest.orders key ⟨inP, inQ⟩
  products key _ := by
    by_cases inP : key ∈ P.products
    · exact first.products key inP
    by_cases inQ : key ∈ Q.products
    · exact second.products key inQ
    exact rest.products key ⟨inP, inQ⟩

end AgreeOn

end MemoryStore

/-- Whether the order or the product that a call names is in a part. A call that names none is in no
part. -/
def StoreCall.IsWithin (P : Part) : StoreCall → Prop
  | .find id | .write id _ _ | .writeUnknown id _ _ => P.HasOrder id
  | .product id | .setStock id _ => P.HasProduct id
  | .withStatus .. | .withUnknownStatus .. | .statuses => False

namespace MemoryStore

variable {s s' : MemoryStore} {now : Timestamp} {c : StoreCall} {id : Value}

theorem find_congr (h : AgreeOn P s s') (within : P.HasOrder id) : s'.find id = s.find id := by
  unfold find
  cases named : id.identity with
  | error f => rfl
  | ok key => simp [Except.map, h.orders key (within key named)]

theorem product_congr (h : AgreeOn P s s') (within : P.HasProduct id) :
    s'.product id = s.product id := by
  unfold product
  cases named : id.identity with
  | error f => rfl
  | ok key => simp [Except.map, h.products key (within key named)]

theorem write_agreeOn (h : AgreeOn P s s') (within : P.HasOrder id) (status : Status)
    (changes : List Change) :
    (s'.write now id status changes).1 = (s.write now id status changes).1 ∧
      AgreeOn P (s.write now id status changes).2 (s'.write now id status changes).2 := by
  unfold write
  cases named : id.identity with
  | error f => exact ⟨rfl, h⟩
  | ok key =>
    have same := h.orders key (within key named)
    cases found : s.orders.get? key with
    | none => simp [same, found, h]
    | some o =>
      simp only [same, found]
      split
      · exact ⟨rfl, h⟩
      · refine ⟨rfl, fun other mem => ?_, h.products⟩
        simp [Catalog.get?_put, h.orders other mem]

theorem setStock_agreeOn (h : AgreeOn P s s') (within : P.HasProduct id) (stock : Quantity) :
    (s'.setStock id stock).1 = (s.setStock id stock).1 ∧
      AgreeOn P (s.setStock id stock).2 (s'.setStock id stock).2 := by
  unfold setStock
  cases named : id.identity with
  | error f => exact ⟨rfl, h⟩
  | ok key =>
    have same := h.products key (within key named)
    cases found : s.products.get? key with
    | none => simp [same, found, h]
    | some p =>
      simp only [same, found]
      refine ⟨trivial, h.orders, fun other mem => ?_⟩
      simp [Catalog.get?_put, h.products other mem]

/-- A call within a part has the same reply in two stores that agree on it, and they still agree on
it afterwards. -/
theorem respond_agreeOn (within : c.IsWithin P) (h : AgreeOn P s s') :
    (s'.respond now c).1 = (s.respond now c).1 ∧
      AgreeOn P (s.respond now c).2 (s'.respond now c).2 := by
  cases c with
  | find id => exact ⟨by simp [respond, find_congr h within], h⟩
  | product id => exact ⟨by simp [respond, product_congr h within], h⟩
  | writeUnknown id word changes =>
    exact ⟨by simp [respond, writeUnknown, find_congr h within], h⟩
  | write id status changes => exact write_agreeOn h within status changes
  | setStock id stock => exact setStock_agreeOn h within stock
  | withStatus => exact within.elim
  | withUnknownStatus => exact within.elim
  | statuses => exact within.elim

theorem write_elsewhere (within : P.HasOrder id) (status : Status) (changes : List Change) :
    AgreeOn P.others s (s.write now id status changes).2 := by
  rcases result : s.write now id status changes with ⟨reply, u⟩
  rcases write_cases result with ⟨-, rfl⟩ | ⟨key, o, named, -, -, rfl⟩
  · exact .refl _ u
  · refine ⟨fun other mem => ?_, fun _ _ => rfl⟩
    have ne : key ≠ other := fun same => mem (same ▸ within key named)
    simp [Catalog.get?_put, ne]

theorem setStock_elsewhere (within : P.HasProduct id) (stock : Quantity) :
    AgreeOn P.others s (s.setStock id stock).2 := by
  unfold setStock
  split
  · exact .refl _ s
  next key named =>
    split
    · exact .refl _ s
    · refine ⟨fun _ _ => rfl, fun other mem => ?_⟩
      have ne : key ≠ other := fun same => mem (same ▸ within key named)
      simp [Catalog.get?_put, ne]

/-- A call within a part changes nothing elsewhere. -/
theorem respond_elsewhere (within : c.IsWithin P) : AgreeOn P.others s (s.respond now c).2 := by
  cases c with
  | write id status changes => exact write_elsewhere within status changes
  | setStock id stock => exact setStock_elsewhere within stock
  | find => exact .refl _ s
  | product => exact .refl _ s
  | writeUnknown => exact .refl _ s
  | withStatus => exact within.elim
  | withUnknownStatus => exact within.elim
  | statuses => exact within.elim

end MemoryStore

/-! ### The desk -/

/-- Whether a call works with a part of the store. Customers and pauses have nothing to do with
it. -/
def DeskCall.IsWithin (P : Part) : DeskCall → Prop
  | .store c => c.IsWithin P
  | .print id => P.HasOrder id
  | .confirm .. | .tell .. | .pause _ => True

namespace DeskCall

variable {id : Value}

@[simp] theorem isWithin_find : (store (.find id)).IsWithin P ↔ P.HasOrder id := Iff.rfl

@[simp] theorem isWithin_write {status : Status} {changes : List Change} :
    (store (.write id status changes)).IsWithin P ↔ P.HasOrder id := Iff.rfl

@[simp] theorem isWithin_print : (print id).IsWithin P ↔ P.HasOrder id := Iff.rfl

@[simp] theorem isWithin_confirm {receipt : Option String} : (confirm id receipt).IsWithin P :=
  trivial

@[simp] theorem isWithin_tell {status : Status} : (tell id status).IsWithin P := trivial

end DeskCall

namespace Rehearsal.Desk

/-- What stays as it is at a desk, whatever is done. -/
def setting (d : Desk) : Desk :=
  { d with store := .memory {}, sent := [], requests := [], pauses := [] }

/-- Two desks in one setting and without faults, whose stores are in memory and agree on a part. -/
structure Alike (P : Part) (d d' : Desk) : Prop where
  setting : d'.setting = d.setting
  faultless : d.faults = []
  stores : ∃ s s', d.store = .memory s ∧ d'.store = .memory s' ∧ MemoryStore.AgreeOn P s s'

variable {d d' d'' : Desk} {s : MemoryStore} {c : DeskCall} {α β : Type}

namespace Alike

theorem refl (P : Part) (faultless : d.faults = []) (memory : d.store = .memory s) :
    Alike P d d := ⟨rfl, faultless, s, s, memory, memory, .refl P s⟩

theorem faultless' (h : Alike P d d') : d'.faults = [] :=
  (congrArg Desk.faults h.setting).trans h.faultless

theorem symm (h : Alike P d d') : Alike P d' d := by
  obtain ⟨s, s', memory, memory', agree⟩ := h.stores
  exact ⟨h.setting.symm, h.faultless', s', s, memory', memory, agree.symm⟩

theorem trans (h : Alike P d d') (h' : Alike P d' d'') : Alike P d d'' := by
  obtain ⟨s, t, first, middle, agree⟩ := h.stores
  obtain ⟨t', s', middle', last, agree'⟩ := h'.stores
  obtain rfl : t' = t := Store.memory.inj (middle'.symm.trans middle)
  exact ⟨h'.setting.trans h.setting, h.faultless, s, s', first, last, agree.trans agree'⟩

theorem mono (h : Alike P d d')
    (le : ∀ {s s'}, MemoryStore.AgreeOn P s s' → MemoryStore.AgreeOn Q s s') : Alike Q d d' := by
  obtain ⟨s, s', memory, memory', agree⟩ := h.stores
  exact ⟨h.setting, h.faultless, s, s', memory, memory', le agree⟩

/-- Two desks that are alike in two parts and in what is in neither are alike in everything. -/
theorem whole (first : Alike P d d') (second : Alike Q d d')
    (rest : Alike (P.others.both Q.others) d d') : Alike .whole d d' := by
  obtain ⟨s, s', memory, memory', inP⟩ := first.stores
  obtain ⟨t, t', same, same', inQ⟩ := second.stores
  obtain rfl : t = s := Store.memory.inj (same.symm.trans memory)
  obtain rfl : t' = s' := Store.memory.inj (same'.symm.trans memory')
  obtain ⟨u, u', same, same', inNeither⟩ := rest.stores
  obtain rfl : u = t := Store.memory.inj (same.symm.trans memory)
  obtain rfl : u' = t' := Store.memory.inj (same'.symm.trans memory')
  exact ⟨first.setting, first.faultless, u, u', memory, memory', inP.whole inQ inNeither⟩

end Alike

/-- Two desks in one setting have all that matters in common but the store. -/
theorem eq_of_setting (h : d'.setting = d.setting) : d'.now = d.now ∧ d'.printer = d.printer ∧
    d'.notifier = d.notifier ∧ d'.notifications = d.notifications ∧ d'.services = d.services := by
  simp only [setting, mk.injEq] at h
  obtain ⟨now, notifications, -, -, notifier, printer, services, -⟩ := h
  exact ⟨now, printer, notifier, notifications, services⟩

/-- Without faults the store replies to what it is asked. -/
theorem respond_store (faultless : d.faults = []) (memory : d.store = .memory s) (c : StoreCall) :
    d.respond (.store c) =
      ((s.respond d.now c).1, { d with store := .memory (s.respond d.now c).2 }) := by
  simp [respond, respondStore, faultless, memory, Store.respond]

/-- What a printer makes of what is found in the store. -/
def printed (d : Desk) (id : Value) (found : Except Failure (Option Order)) :
    Except Failure String :=
  match d.printer with
  | .receipt heading =>
    match found with
    | .error f => .error f
    | .ok none => .error (.orderNotFound id.plain)
    | .ok (some o) => Receipt.text heading d.now o
  | .fixed text => .ok text
  | .failing f => .error f

/-- A receipt shows what is found in the store, which stays as it is. -/
theorem respond_print (faultless : d.faults = []) (memory : d.store = .memory s) (id : Value) :
    d.respond (.print id) = (d.printed id (s.find id), d) := by
  have looked : respondStore (.find id) d = ((s.find id).map Found.ofOption, d) := by
    simp only [respondStore, faultless, memory, StoreFault.consult_nil, Store.respond,
      MemoryStore.respond]
    rw [← faultless, ← memory]
  cases printer : d.printer with
  | receipt heading =>
    simp only [respond, printed, printer, printReceipt, Receipt.print, Program.run_call, looked]
    rcases s.find id with f | (_ | o) <;> rfl
  | fixed => simp [respond, printed, printer]
  | failing => simp [respond, printed, printer]

theorem deliver_congr (h : d'.setting = d.setting) (n : Notice) :
    (d'.deliver n).1 = (d.deliver n).1 := by
  obtain ⟨-, -, notifier, notifications, services⟩ := eq_of_setting h
  simp only [deliver, request, notifier, notifications, services]
  repeat' split
  all_goals rfl

theorem setting_deliver (n : Notice) (d : Desk) :
    (d.deliver n).2.setting = d.setting ∧ (d.deliver n).2.store = d.store := by
  simp only [deliver, request]
  repeat' split
  all_goals exact ⟨rfl, rfl⟩

/-- Customers are told the same at two desks in one setting, and the stores stay as they are. -/
theorem deliver_alike (h : Alike P d d') (n : Notice) :
    (d'.deliver n).1 = (d.deliver n).1 ∧ Alike P (d.deliver n).2 (d'.deliver n).2 := by
  obtain ⟨setting, store⟩ := setting_deliver n d
  obtain ⟨setting', store'⟩ := setting_deliver n d'
  refine ⟨deliver_congr h.setting n, ?_, ?_, ?_⟩
  · rw [setting, setting', h.setting]
  · exact (congrArg Desk.faults setting).trans h.faultless
  · rw [store, store']
    exact h.stores

/-- A call within a part has the same reply at two desks that are alike in it, and they stay so. -/
theorem respond_alike (within : c.IsWithin P) (h : Alike P d d') :
    (d'.respond c).1 = (d.respond c).1 ∧ Alike P (d.respond c).2 (d'.respond c).2 := by
  obtain ⟨s, s', memory, memory', agree⟩ := h.stores
  obtain ⟨now, printer, -⟩ := eq_of_setting h.setting
  cases c with
  | store c =>
    have clock : s'.respond d'.now c = s'.respond d.now c := by rw [now]
    rw [respond_store h.faultless memory, respond_store h.faultless' memory', clock]
    obtain ⟨reply, after⟩ := MemoryStore.respond_agreeOn within agree
    exact ⟨reply, h.setting, h.faultless, _, _, rfl, rfl, after⟩
  | print id =>
    rw [respond_print h.faultless memory, respond_print h.faultless' memory',
      MemoryStore.find_congr agree within]
    exact ⟨by simp [printed, printer, now], h⟩
  | confirm id receipt => exact deliver_alike h _
  | tell id status => exact deliver_alike h _
  | pause seconds => exact ⟨rfl, h.setting, h.faultless, s, s', memory, memory', agree⟩

/-- A call within a part changes nothing elsewhere. -/
theorem respond_elsewhere (within : c.IsWithin P) (faultless : d.faults = [])
    (memory : d.store = .memory s) : Alike P.others d (d.respond c).2 := by
  cases c with
  | store c =>
    rw [respond_store faultless memory]
    exact ⟨rfl, faultless, s, _, memory, rfl, MemoryStore.respond_elsewhere within⟩
  | print id =>
    rw [respond_print faultless memory]
    exact .refl _ faultless memory
  | pause seconds => exact ⟨rfl, faultless, s, s, memory, memory, .refl _ s⟩
  | confirm | tell =>
    obtain ⟨setting, store⟩ := setting_deliver _ d
    exact ⟨setting, faultless, s, s, memory, store.trans memory, .refl _ s⟩

/-! ### Programs -/

/-- A program within a part has the same result at two desks that are alike in it, makes the same
calls, and leaves the desks alike. -/
theorem run_alike {p : DeskProgram α} (within : ∀ e ∈ p.trace respond d, e.1.IsWithin P)
    (h : Alike P d d') : (p.run respond d').1 = (p.run respond d).1 ∧
      p.trace respond d' = p.trace respond d ∧
      Alike P (p.run respond d).2 (p.run respond d').2 := by
  induction p generalizing d d' with
  | done a => exact ⟨rfl, rfl, h⟩
  | call c next ih =>
    obtain ⟨first, later⟩ := List.forall_mem_cons.mp within
    obtain ⟨reply, after⟩ := respond_alike first h
    obtain ⟨result, calls, last⟩ := ih (respond c d).1 later after
    rw [run_call, run_call, trace, trace, reply]
    exact ⟨result, congrArg _ calls, last⟩

/-- A program within a part changes nothing elsewhere. -/
theorem run_elsewhere {p : DeskProgram α} (within : ∀ e ∈ p.trace respond d, e.1.IsWithin P)
    (faultless : d.faults = []) (memory : d.store = .memory s) :
    Alike P.others d (p.run respond d).2 := by
  induction p generalizing d s with
  | done a => exact .refl _ faultless memory
  | call c next ih =>
    obtain ⟨first, later⟩ := List.forall_mem_cons.mp within
    have step := respond_elsewhere first faultless memory
    obtain ⟨-, t, -, memory', -⟩ := step.stores
    exact step.trans (ih (respond c d).1 later step.faultless' memory')

/-- Two programs within parts that have nothing in common can be run in either order: both have the
result that they have alone, and in the end the store is the same. -/
theorem run_comm {p : DeskProgram α} {q : DeskProgram β} (apart : P.IsApart Q)
    (within : ∀ e ∈ p.trace respond d, e.1.IsWithin P)
    (within' : ∀ e ∈ q.trace respond d, e.1.IsWithin Q) (faultless : d.faults = [])
    (memory : d.store = .memory s) :
    (q.run respond (p.run respond d).2).1 = (q.run respond d).1 ∧
      (p.run respond (q.run respond d).2).1 = (p.run respond d).1 ∧
      Alike .whole (q.run respond (p.run respond d).2).2 (p.run respond (q.run respond d).2).2 := by
  -- After one program, nothing has changed in the part of the other.
  have afterP := run_elsewhere within faultless memory
  have afterQ := run_elsewhere within' faultless memory
  obtain ⟨result', calls', inQ⟩ := run_alike within' (afterP.mono (.of_isApart apart.symm))
  obtain ⟨result, calls, inP⟩ := run_alike within (afterQ.mono (.of_isApart apart))
  obtain ⟨-, t, -, memoryP, -⟩ := afterP.stores
  obtain ⟨-, u, -, memoryQ, -⟩ := afterQ.stores
  have lastQ := run_elsewhere (calls' ▸ within') afterP.faultless' memoryP
  have lastP := run_elsewhere (calls ▸ within) afterQ.faultless' memoryQ
  have first := (lastQ.mono (.of_isApart apart)).symm.trans inP
  have second := inQ.symm.trans (lastP.mono (.of_isApart apart.symm))
  have before : Alike (P.others.both Q.others) d _ :=
    (afterP.mono .both_left).trans (lastQ.mono .both_right)
  have rest := before.symm.trans ((afterQ.mono .both_right).trans (lastP.mono .both_left))
  exact ⟨result', result, first.whole second rest⟩

end Rehearsal.Desk

end Fulfilment
