import Fulfilment.Customer.Receipt
import Fulfilment.Customer.Webhook
import Fulfilment.Processing.Desk
import Fulfilment.Rehearsal.Faults
import Fulfilment.Store.Memory
import Fulfilment.Store.Table

/-!
# A desk for rehearsals

A desk at which orders can be processed without a network and without waiting. Its store is one of
the two stores, disturbed by faults; services are replaced by a table of replies; notices, requests
and pauses are noted down.

## Main definitions

* `Rehearsal.Store` - one of the two stores
* `Rehearsal.Notifier`, `Rehearsal.Printer` - how notices are delivered and receipts printed
* `Rehearsal.Desk` - the desk
* `Rehearsal.Desk.respond` - what the desk replies to calls
-/

namespace Fulfilment.Rehearsal

/-- One of the two stores. -/
inductive Store where
  /-- The store in memory. -/
  | memory (s : MemoryStore)
  /-- The store of tables. -/
  | table (s : TableStore)
deriving Repr

namespace Store

/-- The replies of a store. -/
def respond (now : Timestamp) (c : StoreCall) : Store → c.Reply × Store
  | memory s => let (r, s) := s.respond now c; (r, memory s)
  | table s => let (r, s) := s.respond now c; (r, table s)

/-- Enters an order. -/
def enter (now : Timestamp) (o : Order) : Store → Except Failure Store
  | memory s => (s.enter now o).map memory
  | table s => (s.save now o).map table

/-- Enters a product. -/
def enterProduct (p : Product) : Store → Except Failure Store
  | memory s => (s.enterProduct p).map memory
  | table s => (s.saveProduct p).map table

/-- The order of an identifier. -/
def find (id : Value) : Store → Except Failure (Option Order)
  | memory s => s.find id
  | table s => s.find id

/-- The history of a store that keeps one. -/
def history? : Store → Option (List (Value × Status))
  | memory s => some s.history
  | table _ => none

/-- The products, of a store that can list them. -/
def products? : Store → Option (List Product)
  | memory s => some s.products.entries
  | table _ => none

/-- The stock of a product, of a store that can list them. -/
def stockOf (id : Value) : Store → Except Failure (Option Quantity)
  | memory s => (s.product id).map (Option.map Product.stock)
  | table _ => .ok none

/-- The store after everything was removed that can be removed at once. -/
def clear : Store → Store
  | memory _ => memory {}
  | table s => table s

end Store

/-- How notices are delivered. -/
inductive Notifier where
  /-- They are noted down. Confirmations and updates may be undeliverable, or fail. -/
  | outbox (undeliverable : Notice → Bool) (failing : Notice → Option Failure)
  /-- They are posted to a webhook. -/
  | webhook

/-- The notifier that the settings ask for. -/
def Notifier.ofSettings (s : NotificationSettings) : Notifier :=
  if s.usesWebhook then webhook else outbox (fun _ => false) (fun _ => none)

/-- How receipts are printed. -/
inductive Printer where
  /-- From the store, under a heading. -/
  | receipt (heading : String)
  /-- Always with this text. -/
  | fixed (text : String)
  /-- Never, for a failure. -/
  | failing (f : Failure)
deriving Repr, Inhabited

/-- A desk for rehearsals. -/
structure Desk where
  /-- The time. -/
  now : Timestamp
  /-- The settings of notices. -/
  notifications : NotificationSettings := {}
  /-- The store. -/
  store : Store
  /-- The faults of the store. -/
  faults : List StoreFault := []
  /-- How notices are delivered. -/
  notifier : Notifier
  /-- How receipts are printed. -/
  printer : Printer := .receipt Receipt.defaultHeading
  /-- The services. -/
  services : HttpTable := []
  /-- The notices that were noted down. -/
  sent : List Notice := []
  /-- The requests that were made. -/
  requests : List HttpRequest := []
  /-- The pauses that were made. -/
  pauses : List Binary64 := []

namespace Desk

/-- What the store replies, unless a fault answers. -/
def respondStore : Program.Responder StoreCall StoreCall.Reply Desk := fun c d =>
  match StoreFault.consult d.faults c with
  | (some r, faults) => (r, { d with faults := faults })
  | (none, faults) =>
    let (r, store) := d.store.respond d.now c
    (r, { d with faults := faults, store := store })

/-- Makes a request. -/
def request (r : HttpRequest) (d : Desk) : Except Failure HttpReply × Desk :=
  (d.services.reply r.url, { d with requests := d.requests ++ [r] })

/-- Delivers a notice. -/
def deliver (n : Notice) (d : Desk) : Except Failure Bool × Desk :=
  match d.notifier with
  | .webhook =>
    match Webhook.request? d.notifications n with
    | none => (.ok false, d)
    | some r =>
      let (reply, d) := d.request r
      (.ok (Webhook.delivered reply), d)
  | .outbox undeliverable failing =>
    match failing n with
    | some f => (.error f, d)
    | none =>
      if undeliverable n then (.ok false, d)
      else (.ok true, { d with sent := d.sent ++ [n] })

/-- Prints a receipt from the store. -/
def printReceipt (heading : String) (id : Value) (d : Desk) : Except Failure String × Desk :=
  (Receipt.print heading d.now id).run respondStore d

/-- What the desk replies. -/
def respond : Program.Responder DeskCall DeskCall.Reply Desk
  | .store c, d => respondStore c d
  | .print id, d =>
    match d.printer with
    | .receipt heading => d.printReceipt heading id
    | .fixed text => (.ok text, d)
    | .failing f => (.error f, d)
  | .confirm id receipt, d => d.deliver (.confirmation id receipt)
  | .tell id status, d => d.deliver (.update id status)
  | .pause seconds, d => ((), { d with pauses := d.pauses ++ [seconds] })

end Desk

end Fulfilment.Rehearsal
