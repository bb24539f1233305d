import Fulfilment.Proofs.MemoryDesk
import Fulfilment.Rehearsal.Desk

/-!
# Writes and the statuses in a store

What a write leaves of the orders in a store, for the store in memory and for the store of tables: a
write that is taken sets the status of the one order, and nothing else sets one. The two stores are
then one, at a desk at which any call may fail.

## Main definitions

* `Rehearsal.Store.status?` - the status that a store has for an order
* `Rehearsal.Store.Identified` - whether the orders are entered under their identifiers
* `Rehearsal.Store.Disturbed` - the desk at which any call may fail

## Main results

* `MemoryStore.write_cases`, `TableStore.write_cases` - what a write leaves of a store
* `Rehearsal.Store.status?_respond` - what any call leaves of the statuses
-/

namespace Fulfilment

variable {now : Timestamp} {id : Value} {key other : String} {status : Status}
  {changes : List Change} {stock : Quantity} {reply : Except Failure Value}

/-! ### The store in memory -/

namespace MemoryStore

variable {s u : MemoryStore}

/-- A write is not taken and changes nothing, or there is an order and the write is carried out. -/
theorem write_cases (h : s.write now id status changes = (reply, u)) :
    (taken reply = false ∧ u = s) ∨
      ∃ name o, id.identity = .ok name ∧ s.orders.get? name = some o ∧ reply = .ok (.bool true) ∧
        u = { s with
          orders := s.orders.put name (written now status changes o)
          history := s.history ++ [(id, status)] } := by
  unfold write at h
  split at h
  · cases h
    exact .inl ⟨rfl, rfl⟩
  next name named =>
    split at h
    · cases h
      exact .inl ⟨rfl, rfl⟩
    next o found =>
      split at h
      · cases h
        exact .inl ⟨rfl, rfl⟩
      · cases h
        exact .inr ⟨name, o, named, found, rfl, rfl⟩

/-- A stock is not written and nothing changes, or there is a product and its stock is written. -/
theorem setStock_cases (h : s.setStock id stock = (reply, u)) :
    (taken reply = false ∧ u = s) ∨
      ∃ name p, id.identity = .ok name ∧ s.products.get? name = some p ∧ reply = .ok (.bool true) ∧
        u = { s with products := s.products.put name { p with stock := stock } } := by
  unfold setStock at h
  split at h
  · cases h
    exact .inl ⟨rfl, rfl⟩
  next name named =>
    split at h
    · cases h
      exact .inl ⟨rfl, rfl⟩
    next p found =>
      cases h
      exact .inr ⟨name, p, named, found, rfl, rfl⟩

theorem orders_setStock (h : s.setStock id stock = (reply, u)) : u.orders = s.orders := by
  rcases setStock_cases h with ⟨-, rfl⟩ | ⟨name, p, -, -, -, rfl⟩ <;> rfl

/-- Whether the orders are entered under their identifiers, which are texts. -/
def Identified (s : MemoryStore) : Prop :=
  ∀ e ∈ s.orders, ∃ key : String, e.1 = .text key ∧ e.2.id = .text key

theorem Identified.named {o : Order} (identified : s.Identified) (found : s.order? key = some o) :
    o.id = .text key := by
  obtain ⟨_, same, named⟩ := identified _ (Catalog.get?_eq_some_of_mem found)
  cases same
  exact named

/-- What is listed are identifiers of orders in the status, whatever the limit is. -/
theorem mem_withStatus {limit : Value} {ids : List Value}
    (h : s.withStatus status limit = .ok ids) (mem : id ∈ ids) :
    ∃ e ∈ s.orders, e.2.status = status ∧ e.2.id = id := by
  have among : id ∈ (s.orders.entries.filter (·.status = status)).map (·.id) := by
    unfold withStatus limited at h
    split at h <;> cases h
    · exact mem
    · exact List.mem_of_mem_take mem
    · exact List.mem_of_mem_take mem
  obtain ⟨o, filtered, rfl⟩ := List.mem_map.mp among
  obtain ⟨⟨e, entry, rfl⟩, isIn⟩ := (List.mem_filter.mp filtered).imp_left List.mem_map.mp
  exact ⟨e, entry, by simpa using isIn, rfl⟩

theorem id_written (o : Order) : (written now status changes o).id = o.id := by
  -- For any order to begin with, since the changes are made to one in the new status.
  suffices h : ∀ p : Order, (changes.foldl Order.apply p).id = p.id from h _
  induction changes with
  | nil => intro p; rfl
  | cons c cs ih => intro p; simp [ih]

/-- Entering leaves the orders under their identifiers, if the new one has a text as identifier. -/
theorem Identified.enter {o : Order} (identified : s.Identified) (named : o.id = .text key)
    (h : s.enter now o = .ok u) : u.Identified := by
  obtain ⟨name, same, rfl⟩ := Failure.map_eq_ok_iff.mp h
  rw [named, Value.identity_text] at same
  rintro ⟨name', o'⟩ mem
  rcases Catalog.mem_put mem with mem | ⟨equal, rfl⟩
  · exact identified _ mem
  · refine ⟨key, (eq_of_beq equal).trans (Except.ok.inj same).symm, ?_⟩
    unfold entered
    split <;> exact named

/-- Writes leave the orders under their identifiers. -/
theorem Identified.write (identified : s.Identified)
    (h : s.write now id status changes = (reply, u)) : u.Identified := by
  rcases write_cases h with ⟨-, rfl⟩ | ⟨name, o, -, found, -, rfl⟩
  · exact identified
  rintro ⟨name', o'⟩ mem
  rcases Catalog.mem_put mem with mem | ⟨same, rfl⟩
  · exact identified _ mem
  -- The order in the place of the old one has the identifier of the old one.
  · obtain ⟨key, text, named⟩ := identified _ (Catalog.get?_eq_some_of_mem found)
    exact ⟨key, (eq_of_beq same).trans text, (id_written o).trans named⟩

end MemoryStore

/-! ### The store of tables -/

namespace OrderRow

variable {r row : OrderRow}

@[simp] theorem id_apply (c : Change) : (r.apply c).id = r.id := by cases c <;> rfl

@[simp] theorem status_apply (c : Change) : (r.apply c).status = r.status := by cases c <;> rfl

/-- Changes give a row neither another identifier nor another status. -/
theorem foldl_apply (changes : List Change) (r : OrderRow) :
    (changes.foldl apply r).id = r.id ∧ (changes.foldl apply r).status = r.status := by
  induction changes generalizing r with
  | nil => exact ⟨rfl, rfl⟩
  | cons c cs ih =>
    obtain ⟨sameId, sameStatus⟩ := ih (r.apply c)
    exact ⟨by simp [sameId], by simp [sameStatus]⟩

theorem id_status_written (h : r.written now status changes = .ok row) :
    row.id = r.id ∧ row.status = status := by
  unfold written at h
  obtain ⟨-, -, h⟩ := Failure.bind_eq_ok_iff.mp h
  obtain ⟨-, -, h⟩ := Failure.bind_eq_ok_iff.mp h
  obtain ⟨-, -, h⟩ := Failure.bind_eq_ok_iff.mp h
  have kept := foldl_apply (changes.filter r.isChangedBy) { r with status := status }
  rw [← Except.ok.inj h]
  split <;> exact kept

end OrderRow

namespace TableStore

variable {s u : TableStore}

@[simp] theorem row?_text : s.row? (.text key) = .ok (s.orders.find? (·.id = key)) := rfl

@[simp] theorem find_text :
    s.find (.text key) = .ok ((s.orders.find? (·.id = key)).map OrderRow.order) := rfl

theorem of_find? {r : OrderRow} {rows : List OrderRow}
    (h : rows.find? (·.id = key) = some r) : r ∈ rows ∧ r.id = key :=
  ⟨List.mem_of_find?_eq_some h, by simpa using List.find?_some h⟩

theorem find?_replace {row : OrderRow} : (s.replace row).orders.find? (·.id = key) =
    if row.id = key then (s.orders.find? (·.id = key)).map fun _ => row
    else s.orders.find? (·.id = key) := by
  simp only [replace]
  induction s.orders with
  | nil => simp
  | cons r rest ih =>
    by_cases here : r.id = row.id
    · by_cases same : row.id = key
      · simp [here, same]
      · simp [here, same, ih]
    · by_cases same : r.id = key
      · have ne : row.id ≠ key := fun h => here (same.trans h.symm)
        simp [same, ne, Ne.symm ne]
      · simp [here, same, ih]

/-- What is listed are identifiers of orders in the status, whatever the limit is. -/
theorem mem_withStatus {limit : Value} {ids : List Value}
    (h : s.withStatus status limit = .ok ids) (mem : id ∈ ids) :
    ∃ r ∈ s.orders, r.status = status ∧ .text r.id = id := by
  obtain ⟨limit, -, listed⟩ := Failure.bind_eq_ok_iff.mp h
  cases listed
  have among : id ∈ ((s.orders.filter (·.status = status)).mergeSort
      fun a b => a.createdAt.localLe b.createdAt).map fun r => Value.text r.id := by
    cases limit with
    | none => exact mem
    | some n => exact List.mem_of_mem_take mem
  simpa [List.mem_mergeSort, and_assoc] using among

/-- A write is not taken and changes nothing, or there is a row and the write is carried out. -/
theorem write_cases (h : s.write now id status changes = (reply, u)) :
    (taken reply = false ∧ u = s) ∨
      ∃ r row, s.row? id = .ok (some r) ∧ r.written now status changes = .ok row ∧
        reply = .ok (.bool true) ∧ u = s.replace row := by
  unfold write at h
  split at h
  · cases h
    exact .inl ⟨rfl, rfl⟩
  · split at h
    · cases h
      exact .inl ⟨rfl, rfl⟩
    · cases h
      exact .inl ⟨rfl, rfl⟩
    next r found =>
      split at h
      · cases h
        exact .inl ⟨rfl, rfl⟩
      next row carried =>
        cases h
        exact .inr ⟨r, row, found, carried, rfl, rfl⟩

theorem orders_setStock (h : s.setStock id stock = (reply, u)) : u.orders = s.orders := by
  unfold setStock at h
  split at h
  · cases h
    rfl
  · cases h
    rfl
  · split at h <;> cases h <;> rfl

end TableStore

/-! ### Either store -/

namespace Rehearsal.Store

variable {s u : Store}

/-- The status that a store has for an order. -/
def status? : Store → String → Option Status
  | memory s, id => (s.order? id).map Order.status
  | table s, id => (s.orders.find? (·.id = id)).map OrderRow.status

/-- Whether the orders of a store are entered under their identifiers, which are texts. In the store
of tables there is no other way. -/
def Identified : Store → Prop
  | memory s => s.Identified
  | table _ => True

/-- The store carries out a call on it, or the call fails and nothing changes. The printer and the
service that tells customers may answer as they like. -/
def Disturbed (now : Timestamp) : DeskEnvironment Store
  | s, ⟨.store c, r⟩, u => s.respond now c = (r, u) ∨ (Fails ⟨.store c, r⟩ ∧ u = s)
  | s, _, u => u = s

/-- The store is left alone, or as a call on it leaves it. -/
theorem Disturbed.eq_or_respond {e : DeskEvent} (h : Disturbed now s e u) :
    u = s ∨ ∃ c, e.1 = .store c ∧ u = (s.respond now c).2 := by
  obtain ⟨c | _ | _ | _ | _, r⟩ := e
  case store =>
    rcases h with carried | ⟨-, rfl⟩
    · exact .inr ⟨c, rfl, (congrArg Prod.snd carried).symm⟩
    · exact .inl rfl
  all_goals exact .inl h

theorem respond_memory {m : MemoryStore} {c : StoreCall} {r : c.Reply} :
    (memory m).respond now c = (r, u) ↔ ∃ n, u = memory n ∧ m.respond now c = (r, n) := by
  constructor
  · intro h
    cases h
    exact ⟨_, rfl, rfl⟩
  · rintro ⟨n, rfl, h⟩
    simp [respond, h]

theorem respond_table {m : TableStore} {c : StoreCall} {r : c.Reply} :
    (table m).respond now c = (r, u) ↔ ∃ n, u = table n ∧ m.respond now c = (r, n) := by
  constructor
  · intro h
    cases h
    exact ⟨_, rfl, rfl⟩
  · rintro ⟨n, rfl, h⟩
    simp [respond, h]

/-- A write sets the status of the one order if it is taken. -/
theorem status?_write (h : s.respond now (.write (.text key) status changes) = (reply, u))
    (other : String) : u.status? other =
      if taken reply = true ∧ other = key then some status else s.status? other := by
  cases s with
  | memory s =>
    obtain ⟨u, rfl, carried⟩ := respond_memory.mp h
    have replied : s.write now (.text key) status changes = (reply, u) := carried
    rcases MemoryStore.write_cases replied with ⟨refused, rfl⟩ | ⟨name, o, named, found, rfl, rfl⟩
    · simp [refused]
    · rw [Value.identity_text, Except.ok.injEq] at named
      subst named
      by_cases same : other = key
      · subst same
        simp [status?, MemoryStore.order?, MemoryStore.status_written]
      · have ne : key ≠ other := Ne.symm same
        simp [status?, MemoryStore.order?, Catalog.get?_put, same, ne]
  | table s =>
    obtain ⟨u, rfl, carried⟩ := respond_table.mp h
    rcases TableStore.write_cases carried with ⟨refused, rfl⟩ | ⟨r, row, found, written, rfl, rfl⟩
    · simp [refused]
    · obtain ⟨sameId, sameStatus⟩ := OrderRow.id_status_written written
      rw [TableStore.row?_text, Except.ok.injEq] at found
      have named := (TableStore.of_find? found).2
      by_cases same : other = key
      · subst same
        simp [status?, TableStore.find?_replace, sameId, named, found, sameStatus]
      · have ne : key ≠ other := Ne.symm same
        simp [status?, TableStore.find?_replace, sameId, named, same, ne]

/-- A write that is not taken changes nothing. -/
theorem eq_of_refused (h : s.respond now (.write id status changes) = (reply, u))
    (refused : taken reply = false) : u = s := by
  cases s with
  | memory s =>
    obtain ⟨u, rfl, carried⟩ := respond_memory.mp h
    rcases MemoryStore.write_cases carried with ⟨-, rfl⟩ | ⟨_, _, _, _, rfl, _⟩
    · rfl
    · cases refused
  | table s =>
    obtain ⟨u, rfl, carried⟩ := respond_table.mp h
    rcases TableStore.write_cases carried with ⟨-, rfl⟩ | ⟨_, _, _, _, rfl, _⟩
    · rfl
    · cases refused

/-- Calls that write no status set none. -/
theorem status?_respond {c : StoreCall} {r : c.Reply} (h : s.respond now c = (r, u))
    (aside : ∀ id status changes, c ≠ .write id status changes) (other : String) :
    u.status? other = s.status? other := by
  cases s with
  | memory s =>
    obtain ⟨u, rfl, carried⟩ := respond_memory.mp h
    cases c with
    | write id status changes => exact absurd rfl (aside id status changes)
    | setStock id stock =>
      simp [status?, MemoryStore.order?, MemoryStore.orders_setStock carried]
    | _ =>
      cases carried
      rfl
  | table s =>
    obtain ⟨u, rfl, carried⟩ := respond_table.mp h
    cases c with
    | write id status changes => exact absurd rfl (aside id status changes)
    | setStock id stock => simp [status?, TableStore.orders_setStock carried]
    | _ =>
      cases carried
      rfl

/-- Calls leave the orders under their identifiers. -/
theorem Identified.respond {c : StoreCall} {r : c.Reply} (identified : s.Identified)
    (h : s.respond now c = (r, u)) : u.Identified := by
  cases s with
  | memory s =>
    obtain ⟨u, rfl, carried⟩ := respond_memory.mp h
    cases c with
    | write id status changes => exact MemoryStore.Identified.write identified carried
    | setStock id stock =>
      simpa [Store.Identified, MemoryStore.Identified, MemoryStore.orders_setStock carried]
        using identified
    | _ =>
      cases carried
      exact identified
  | table s =>
    obtain ⟨u, rfl, -⟩ := respond_table.mp h
    trivial

theorem Identified.enter {o : Order} (identified : s.Identified) (named : o.id = .text key)
    (h : s.enter now o = .ok u) : u.Identified := by
  cases s with
  | memory s =>
    obtain ⟨m, entered, rfl⟩ := Failure.map_eq_ok_iff.mp h
    exact MemoryStore.Identified.enter identified named entered
  | table s =>
    obtain ⟨m, -, rfl⟩ := Failure.map_eq_ok_iff.mp h
    trivial

theorem Identified.enterProduct {p : Product} (identified : s.Identified)
    (h : s.enterProduct p = .ok u) : u.Identified := by
  cases s with
  | memory s =>
    obtain ⟨m, entered, rfl⟩ := Failure.map_eq_ok_iff.mp h
    obtain ⟨key, -, rfl⟩ := Failure.map_eq_ok_iff.mp entered
    exact identified
  | table s =>
    obtain ⟨m, -, rfl⟩ := Failure.map_eq_ok_iff.mp h
    trivial

/-- An order that is found bears the identifier that was asked for, and is in the status that the
store has for it. -/
theorem status?_of_find {o : Order} (identified : s.Identified)
    (h : s.respond now (.find (.text key)) = (.ok (.entry o), u)) :
    o.id = .text key ∧ s.status? key = some o.status := by
  cases s with
  | memory s =>
    obtain ⟨u, rfl, carried⟩ := respond_memory.mp h
    have replied : (s.find (.text key)).map Found.ofOption = .ok (.entry o) :=
      congrArg Prod.fst carried
    obtain ⟨found, asked, entry⟩ := Failure.map_eq_ok_iff.mp replied
    rw [MemoryStore.find_text, Except.ok.injEq, Found.ofOption_eq_entry.mp entry] at asked
    obtain ⟨key', text, named⟩ := identified _ (Catalog.get?_eq_some_of_mem asked)
    cases text
    exact ⟨named, by simp [status?, MemoryStore.order?, asked]⟩
  | table s =>
    obtain ⟨u, rfl, carried⟩ := respond_table.mp h
    have replied : (s.find (.text key)).map Found.ofOption = .ok (.entry o) :=
      congrArg Prod.fst carried
    obtain ⟨found, asked, entry⟩ := Failure.map_eq_ok_iff.mp replied
    rw [TableStore.find_text, Except.ok.injEq, Found.ofOption_eq_entry.mp entry] at asked
    obtain ⟨r, there, rfl⟩ := Option.map_eq_some_iff.mp asked
    have named := (TableStore.of_find? there).2
    exact ⟨by rw [OrderRow.order, named], by simp [status?, there, OrderRow.order]⟩

/-- The orders that are listed are texts. -/
theorem text_of_withStatus {limit w : Value} (identified : s.Identified)
    (h : s.respond now (.withStatus status limit) = (.ok w, u)) :
    ∃ ids : List String, w = .list (ids.map .text) := by
  have replied := congrArg Prod.fst h
  cases s with
  | memory s =>
    obtain ⟨ids, listed, rfl⟩ := Failure.map_eq_ok_iff.mp replied
    obtain ⟨keys, rfl⟩ := Value.exists_eq_map_text fun id mem => by
      obtain ⟨e, entry, -, rfl⟩ := MemoryStore.mem_withStatus listed mem
      obtain ⟨key, -, named⟩ := identified e entry
      exact ⟨key, named⟩
    exact ⟨keys, rfl⟩
  | table s =>
    obtain ⟨ids, listed, rfl⟩ := Failure.map_eq_ok_iff.mp replied
    obtain ⟨keys, rfl⟩ := Value.exists_eq_map_text fun id mem => by
      obtain ⟨r, -, -, rfl⟩ := TableStore.mem_withStatus listed mem
      exact ⟨r.id, rfl⟩
    exact ⟨keys, rfl⟩

end Rehearsal.Store

end Fulfilment
