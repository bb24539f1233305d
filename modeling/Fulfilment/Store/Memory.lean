import Fulfilment.Store.Call

/-!
# The store in memory

A store that keeps orders and products in the order in which they were entered first. It writes
every member of an order that there is, marks each write with the time, and keeps a history of the
statuses that were written.

## Main definitions

* `MemoryStore` - the store
* `MemoryStore.enter`, `MemoryStore.enterProduct` - entering an order or a product
* `MemoryStore.write` - writing a status
* `MemoryStore.respond` - the replies of the store to calls

## Main results

* `MemoryStore.find_enter` - what is found after an order was entered
* `MemoryStore.write_eq_ok_true` - what a write that succeeds leaves behind
-/

namespace Fulfilment

/-- A store of orders and products in memory. -/
structure MemoryStore where
  /-- The orders by their identifiers. -/
  orders : Catalog Name.Identity Order := []
  /-- The products by their identifiers. -/
  products : Catalog Name.Identity Product := []
  /-- The statuses that were written, each with the identifier of its order. -/
  history : List (Value × Status) := []
deriving Repr, Inhabited

namespace MemoryStore

/-- The order as it is entered. An order without a time of entry is entered now. -/
def entered (now : Timestamp) (o : Order) : Order :=
  match o.createdAt with
  | .null => { o with createdAt := .timestamp now }
  | _ => o

/-- Enters an order, replacing one of the same identifier. -/
def enter (s : MemoryStore) (now : Timestamp) (o : Order) : Except Failure MemoryStore :=
  o.id.identity.map fun key => { s with orders := s.orders.put key (entered now o) }

/-- Enters a product, replacing one of the same identifier. -/
def enterProduct (s : MemoryStore) (p : Product) : Except Failure MemoryStore :=
  p.id.identity.map fun key => { s with products := s.products.put key p }

/-- The order of an identifier. -/
def find (s : MemoryStore) (id : Value) : Except Failure (Option Order) :=
  id.identity.map s.orders.get?

/-- The product of an identifier. -/
def product (s : MemoryStore) (id : Value) : Except Failure (Option Product) :=
  id.identity.map s.products.get?

/-- The order with a status and changes written to it. -/
def written (now : Timestamp) (status : Status) (changes : List Change) (o : Order) : Order :=
  changes.foldl Order.apply { o with status := status, updatedAt := .timestamp now }

/-- Writes a status and changes to an order. Changes that the order has no members for are refused
when there is such an order. -/
def write (s : MemoryStore) (now : Timestamp) (id : Value) (status : Status)
    (changes : List Change) : Except Failure Value × MemoryStore :=
  match id.identity with
  | .error f => (.error f, s)
  | .ok key =>
    match s.orders.get? key with
    | none => (.ok (.bool false), s)
    | some o =>
      -- An order that is not there hides members that are not known.
      match Change.refused Change.isKnown changes with
      | some f => (.error f, s)
      | none =>
        (.ok (.bool true),
          { s with
            orders := s.orders.put key (written now status changes o)
            history := s.history ++ [(id, status)] })

/-- Refuses to write a word that names no status. -/
def writeUnknown (s : MemoryStore) (id : Value) (word : Value) (changes : List Change) :
    Except Failure Value := do
  match ← s.find id with
  | none => return .bool false
  | some _ =>
    match Change.refused Change.isKnown changes with
    | some f => throw f
    | none => Status.refused word

/-- Writes the stock of a product. -/
def setStock (s : MemoryStore) (id : Value) (stock : Quantity) :
    Except Failure Value × MemoryStore :=
  match id.identity with
  | .error f => (.error f, s)
  | .ok key =>
    match s.products.get? key with
    | none => (.ok (.bool false), s)
    | some p =>
      (.ok (.bool true), { s with products := s.products.put key { p with stock := stock } })

/-- The first items of a list, up to a limit. Null is no limit, and a truth value counts as one or
none. -/
def limited {α : Type} (limit : Value) (xs : List α) : Except Failure (List α) :=
  match limit with
  | .null => .ok xs
  | .int n => .ok (firstOf n xs)
  | .bool b => .ok (firstOf (if b then 1 else 0) xs)
  | _ => .error .notLimit

/-- The identifiers of the orders in a status, in order of entry. -/
def withStatus (s : MemoryStore) (status : Status) (limit : Value) : Except Failure (List Value) :=
  limited limit ((s.orders.entries.filter (·.status = status)).map (·.id))

/-- The word for the status of each order. -/
def statuses (s : MemoryStore) : List Value := s.orders.entries.map (.text ·.status.word)

/-- The replies of the store. -/
def respond (now : Timestamp) : Program.Responder StoreCall StoreCall.Reply MemoryStore
  | .find id, s => ((s.find id).map Found.ofOption, s)
  | .write id status changes, s => s.write now id status changes
  | .product id, s => ((s.product id).map Found.ofOption, s)
  | .writeUnknown id word changes, s => (s.writeUnknown id word changes, s)
  | .setStock id stock, s => s.setStock id stock
  | .withStatus status limit, s => ((s.withStatus status limit).map .list, s)
  -- No order is in what is no status.
  | .withUnknownStatus _ limit, s => ((limited limit []).map .list, s)
  | .statuses, s => (.ok (.list s.statuses), s)

@[simp] theorem product_text (s : MemoryStore) (id : String) :
    s.product (.text id) = .ok (s.products.get? (.text id)) := rfl

@[simp] theorem find_text (s : MemoryStore) (id : String) :
    s.find (.text id) = .ok (s.orders.get? (.text id)) := rfl

theorem find_enter {s t : MemoryStore} {now : Timestamp} {o : Order} {key other : String}
    (named : o.id = .text key) (ok : s.enter now o = .ok t) :
    t.find (.text other) = .ok (if key = other then some (entered now o)
      else s.orders.get? (.text other)) := by
  simp only [enter, named, Value.identity_text, Except.map, Except.ok.injEq] at ok
  subst ok
  simp [Catalog.get?_put]

theorem write_eq_ok_true {s : MemoryStore} {now : Timestamp} {id : String} {status : Status}
    {changes : List Change} {o : Order} (found : s.orders.get? (.text id) = some o)
    (known : ∀ c ∈ changes, c.isKnown = true) :
    s.write now (.text id) status changes =
      (.ok (.bool true),
        { s with
          orders := s.orders.put (.text id) (written now status changes o)
          history := s.history ++ [(.text id, status)] }) := by
  simp [write, found, Change.refused_eq_none_iff.mpr known]

theorem status_written (now : Timestamp) (status : Status) (changes : List Change) (o : Order) :
    (written now status changes o).status = status := by
  suffices h : ∀ p : Order, (changes.foldl Order.apply p).status = p.status from h _
  induction changes with
  | nil => intro p; rfl
  | cons c cs ih => intro p; simp [ih]

end MemoryStore

end Fulfilment
