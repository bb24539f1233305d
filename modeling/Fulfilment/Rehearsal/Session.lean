import Fulfilment.Processing.Process
import Fulfilment.Rehearsal.Desk
import Fulfilment.Timetable

/-!
# Sessions at a desk

A session keeps the desk together with the settings and the two timers of the scheduler: one
processes the pending orders, and the other counts the orders.

## Main definitions

* `Rehearsal.Session` - a session
* `Rehearsal.Session.begin` - a new session
* `Rehearsal.Session.enter`, `Rehearsal.Session.enterProduct` - entering an order or a product
* `Rehearsal.Session.perform`, `Rehearsal.Session.askStore` - running a program in a session
* `Rehearsal.Session.startTimers`, `Rehearsal.Session.advance` - the scheduler
-/

namespace Fulfilment.Rehearsal

/-- A session at a desk. -/
structure Session where
  /-- The settings. -/
  settings : Settings
  /-- The desk. -/
  desk : Desk
  /-- The timers of the scheduler. -/
  timetable : Timetable Binary64
  /-- The identifiers of the orders that were ever entered, in order. -/
  known : List Name := []

namespace Session

/-- The timer that processes the pending orders. -/
def batchTimer : Nat := 0

/-- The timer that counts the orders. -/
def statsTimer : Nat := 1

/-- The timers of the scheduler, at the start of the time. -/
def timers (s : OrderSettings) : Timetable Binary64 :=
  .new .zero [("process_pending_orders", s.batchInterval),
    ("processing_stats_report", s.statsInterval)]

/-- The work of the timers. -/
def work (settings : OrderSettings) : Timetable.Work Desk Value := fun i d =>
  if i = batchTimer then
    let (summary, d) := (Processing.scheduledBatch d.now settings).run Desk.respond d
    (summary.map BatchSummary.document, d)
  else
    let (census, d) := Processing.census.run Desk.respond d
    (census.map fun c => (c.map Census.document).getD .null, d)

/-- Enters an order. -/
def enter (o : Order) (s : Session) : Except Failure Session := do
  let store ← s.desk.store.enter s.desk.now o
  let id ← o.id.asName
  return { s with
    desk := { s.desk with store := store }
    known := if s.known.contains id then s.known else s.known ++ [id] }

/-- Enters a product. -/
def enterProduct (p : Product) (s : Session) : Except Failure Session := do
  let store ← s.desk.store.enterProduct p
  return { s with desk := { s.desk with store := store } }

/-- A new session at a desk. -/
def begin (settings : Settings) (desk : Desk) : Except Failure Session := do
  settings.logging.checkLevel
  return { settings := settings, desk := desk, timetable := timers settings.orders }

/-- Runs a program at the desk. -/
def perform {α : Type} (p : DeskProgram α) (s : Session) : α × Session :=
  let (a, d) := p.run Desk.respond s.desk
  (a, { s with desk := d })

/-- Runs a program that calls on the store alone. -/
def askStore {α : Type} (p : StoreProgram α) (s : Session) : α × Session := s.perform p.atDesk

/-- The receipt of an order, printed from the store. -/
def receipt (heading : String) (id : Value) (s : Session) : Except Failure String × Session :=
  let (r, d) := s.desk.printReceipt heading id
  (r, { s with desk := d })

/-- Starts the timers. -/
def startTimers (s : Session) : Session :=
  { s with timetable := (s.timetable.start batchTimer).start statsTimer }

/-- Stops the timers. -/
def stopTimers (s : Session) : Session :=
  { s with timetable := (s.timetable.stop batchTimer).stop statsTimer }

/-- Lets a timer work once. -/
def runTimer (i : Nat) (s : Session) : Option Value × Session :=
  let (v, t, d) := Timetable.runOnce (work s.settings.orders) i s.timetable s.desk
  (v, { s with timetable := t, desk := d })

/-- Moves the time of the timers on. -/
def advance (seconds : Binary64) (s : Session) : Session :=
  let (t, d) := s.timetable.advance (work s.settings.orders) seconds s.desk
  { s with timetable := t, desk := d }

/-- An order that was entered, if it is still there. -/
def order? (s : Session) (id : Name) : Option Order :=
  (s.desk.store.find (.ofName id)).toOption.getD none

/-- The status of each order that was ever entered and is still there. -/
def statuses (s : Session) : List (Name × Status) :=
  s.known.filterMap fun id => (s.order? id).map fun o => (id, o.status)

/-- The orders that were ever entered, as far as they are still there. -/
def orders (s : Session) : List (Option Order) := s.known.map s.order?

end Session

end Fulfilment.Rehearsal
