import Fulfilment.Store.Call
import Fulfilment.Number.Binary64

/-!
# The desk

What the processing of orders works with: a store, a printer of receipts, a service that tells
customers, and a pause between one order and the next.

## Main definitions

* `DeskCall` - the calls on these
* `DeskCall.Reply` - what is replied to a call
* `DeskProgram` - programs that call on them
* `StoreProgram.atDesk` - a program that calls on the store alone
-/

namespace Fulfilment

/-- A call of the processing of orders. -/
inductive DeskCall where
  /-- Calls on the store. -/
  | store (c : StoreCall)
  /-- Prints the receipt of an order. -/
  | print (id : Value)
  /-- Confirms an order to its customer, with the receipt. -/
  | confirm (id : Value) (receipt : Option String)
  /-- Tells a customer of a new status. -/
  | tell (id : Value) (status : Status)
  /-- Pauses for some seconds. -/
  | pause (seconds : Binary64)
deriving Repr

/-- What is replied to a call. -/
abbrev DeskCall.Reply : DeskCall → Type
  | .store c => c.Reply
  | .print _ => Except Failure String
  | .confirm .. => Except Failure Bool
  | .tell .. => Except Failure Bool
  | .pause _ => Unit

/-- A program that processes orders. -/
abbrev DeskProgram := Program DeskCall DeskCall.Reply

/-- A program that calls on the store alone, at the desk. -/
def StoreProgram.atDesk {α : Type} : StoreProgram α → DeskProgram α
  | .done a => .done a
  | .call c next => .call (.store c) fun r => atDesk (next r)

@[simp] theorem StoreProgram.atDesk_done {α : Type} (a : α) :
    StoreProgram.atDesk (.done a) = .done a := rfl

theorem StoreProgram.atDesk_bind {α β : Type} (p : StoreProgram α) (f : α → StoreProgram β) :
    StoreProgram.atDesk (p.bind f) = (StoreProgram.atDesk p).bind fun a => (f a).atDesk := by
  induction p with
  | done a => rfl
  | call c next ih => simp [atDesk, ih]

end Fulfilment
