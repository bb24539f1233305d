import Fulfilment.Order.Change
import Fulfilment.Order.Product
import Fulfilment.Program

/-!
# Calls on an order store

What the services ask of a store of orders and products. A store may fail at any call, and it may
decline to write; what the failure means is for the services to decide. A store is trusted to answer
with what it was asked for, but not blindly: an answer may be any value.

## Main definitions

* `StoreCall` - the calls on a store
* `Found` - what is found in a store
* `StoreCall.Reply` - what is replied to a call
* `StoreProgram` - programs that call on a store
-/

namespace Fulfilment

/-- A call on a store. Identifiers are texts, unless they are mistaken. -/
inductive StoreCall where
  /-- Asks for an order. -/
  | find (id : Value)
  /-- Writes a status and further members of an order. -/
  | write (id : Value) (status : Status) (changes : List Change)
  /-- Tries to write a word that names no status. -/
  | writeUnknown (id : Value) (word : Value) (changes : List Change)
  /-- Asks for a product. -/
  | product (id : Value)
  /-- Writes the stock of a product. -/
  | setStock (id : Value) (stock : Quantity)
  /-- Asks for the identifiers of the orders in a status, at most so many; null is no limit. -/
  | withStatus (status : Status) (limit : Value)
  /-- Asks for the identifiers of the orders in what is no status, at most so many. -/
  | withUnknownStatus (word : Value) (limit : Value)
  /-- Asks for the word for the status of each order. -/
  | statuses
deriving Repr

/-- What is found in a store. -/
inductive Found (α : Type) where
  /-- Nothing. -/
  | nothing
  /-- What was looked for. -/
  | entry (a : α)
  /-- A value that is not of the kind that was looked for. -/
  | other (v : Value)
deriving Repr, Inhabited

/-- What is found where there is something or nothing. -/
def Found.ofOption {α : Type} : Option α → Found α
  | some a => .entry a
  | none => .nothing

@[simp] theorem Found.ofOption_some {α : Type} (a : α) : Found.ofOption (some a) = .entry a := rfl

@[simp] theorem Found.ofOption_none {α : Type} : Found.ofOption (none : Option α) = .nothing := rfl

theorem Found.ofOption_eq_entry {α : Type} {found : Option α} {a : α} :
    Found.ofOption found = .entry a ↔ found = some a := by
  cases found <;> simp [Found.ofOption]

/-- What is replied to a call: what was found, whether something was written, or a list. A value
that counts as given says that something was written. -/
abbrev StoreCall.Reply : StoreCall → Type
  | .find _ => Except Failure (Found Order)
  | .write .. => Except Failure Value
  | .writeUnknown .. => Except Failure Value
  | .product _ => Except Failure (Found Product)
  | .setStock .. => Except Failure Value
  | .withStatus .. => Except Failure Value
  | .withUnknownStatus .. => Except Failure Value
  | .statuses => Except Failure Value

/-- The reply that a call fails. -/
def StoreCall.failed (f : Failure) : (c : StoreCall) → c.Reply
  | .find _ | .write .. | .writeUnknown .. | .product _ | .setStock .. | .withStatus ..
  | .withUnknownStatus .. | .statuses => .error f

/-- A program that calls on a store. -/
abbrev StoreProgram := Program StoreCall StoreCall.Reply

/-- The first items of a list: so many, or all but so many for a negative limit. -/
def firstOf {α : Type} (limit : Int) (xs : List α) : List α :=
  xs.take (if limit < 0 then xs.length - limit.natAbs else limit.natAbs)

@[simp] theorem firstOf_natCast {α : Type} (n : Nat) (xs : List α) : firstOf n xs = xs.take n := by
  have : ¬ (n : Int) < 0 := by omega
  simp [firstOf, this]

end Fulfilment
