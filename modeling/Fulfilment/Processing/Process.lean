import Fulfilment.Processing.Report
import Fulfilment.Processing.Steps

/-!
# Processing orders

Taking orders through the steps of processing, calling them off, and counting them. Each of these
operations has a result that tells what has come of it; none of them fails, unless an identifier is
no text or the store answers with something else than it was asked for. A run that fails leaves the
order pending, so that it can be tried again.

## Main definitions

* `Processing.process` - processing an order, also once more
* `Processing.cancel` - calling an order off
* `Processing.census` - counting the orders
* `Processing.batch`, `Processing.scheduledBatch` - processing the pending orders
-/

namespace Fulfilment.Processing

/-- The report of an order that was not processed for one reason. -/
def refusal (id : Value) (message error : String) : Report :=
  { success := false, orderId := id.plain, message := message, errors := some [error] }

/-- The warnings of a run that failed, if there are any. -/
def someWarnings (warnings : List String) : Option (List String) :=
  if warnings.isEmpty then none else some warnings

/-- Makes the order pending again, if the store takes it. -/
def rollBack (id : Value) : DeskProgram Unit :=
  .call (.store (.write id .pending [])) fun _ => .done ()

/-- Takes an order that is fit to process through the steps. -/
def complete (now : Timestamp) (order : Order) (id : Value) (warnings : List String) :
    DeskProgram Report :=
  (Pipeline.run (steps now) { order := order, warnings := warnings }).bind fun
  | (r, none) =>
    .done {
      success := true
      orderId := id.plain
      message := "Order processed successfully"
      warnings := some r.warnings }
  | (r, some f) =>
    -- Whether the order could be made pending again does not change the report.
    (rollBack id).map fun _ => {
      success := false
      orderId := id.plain
      message := "Error processing order"
      errors := some [f.report]
      warnings := someWarnings r.warnings }

/-- Reviews an order that is loaded, and takes it through the steps if it is fit. -/
def reviewAndComplete (now : Timestamp) (settings : OrderSettings) (order : Order) (id : Value) :
    DeskProgram Report :=
  (Validation.review settings id).atDesk.bind fun review =>
    if review.isValid then complete now order id review.warnings
    else
      .done {
        success := false
        orderId := id.plain
        message := "Order is not valid"
        errors := some review.errors
        warnings := some review.warnings }

/-- Processes an order that is loaded. An order that is called off is refused, and one that is
completed is left as it is. -/
def processLoaded (now : Timestamp) (settings : OrderSettings) (order : Order) (id : Value) :
    DeskProgram Report :=
  if order.status.isTerminal then
    .done (refusal id "Order is cancelled"
      ("Order " ++ id.plain ++ " is cancelled and cannot be processed"))
  else if order.status = .completed then
    .done { success := true, orderId := id.plain, message := "Order already processed" }
  else reviewAndComplete now settings order id

/-- Processes an order. The report can be made if the identifier is a text. -/
def process (now : Timestamp) (settings : OrderSettings) (id : Value) :
    DeskProgram (Except Failure Report) :=
  .call (.store (.find id)) fun
  | .error f => .done ((refusal id "Error loading order" f.message).about id)
  | .ok .nothing => .done ((refusal id "Order not found" "Order not found").about id)
  | .ok (.other v) => .done (.error (.noAttribute v.kindName "status"))
  | .ok (.entry order) => (processLoaded now settings order id).map (·.about id)

/-- The reason for which an order is called off, which is that of the settings where none is
given. -/
def reasonOr (settings : OrderSettings) (reason : Value) : Value :=
  if reason.truthy then reason else .text settings.defaultReason

/-- Calls an order off and tells the customer. The result says whether the store took it. -/
def cancel (now : Timestamp) (settings : OrderSettings) (id reason : Value) : DeskProgram Bool :=
  .call (.store (.write id .cancelled
    [.cancelledAt (.timestamp now), .cancellationReason (reasonOr settings reason)])) fun
  | .ok taken =>
    if taken.truthy then (notify id .cancelled).map fun _ => true else .done false
  | .error _ => .done false

/-- Counts the orders in each status, if the store can be read. -/
def census : DeskProgram (Except Failure (Option Census)) :=
  .call (.store .statuses) fun
  | .ok words => .done (words.parts.map fun words => some (.ofWords (words.map Value.plain)))
  | .error _ => .done (.ok none)

/-- Processes orders one after the other, as long as reports can be made. -/
def processEach (now : Timestamp) (settings : OrderSettings) : List Value →
    DeskProgram (Except Failure (List Report))
  | [] => .done (.ok [])
  | id :: ids =>
    (process now settings id).bind fun
    | .error f => .done (.error f)
    | .ok report =>
      (pauseBefore ids).bind fun _ =>
        (processEach now settings ids).map (Except.map (report :: ·))
where
  /-- Pauses when there is a next order. -/
  pauseBefore : List Value → DeskProgram Unit
    | [] => .done ()
    | _ => .call (.pause settings.pause) fun _ => .done ()

/-- Processes the pending orders, up to the limit of a batch, with a pause between two orders. -/
def batch (now : Timestamp) (settings : OrderSettings) :
    DeskProgram (Except Failure (List Report)) :=
  .call (.store (.withStatus .pending (.int settings.batchLimit))) fun
  | .error _ => .done (.ok [])
  | .ok listed =>
    -- A list that cannot be read is no failure of the store.
    match listed.parts with
    | .error f => .done (.error f)
    | .ok ids => processEach now settings (ids.take settings.batchLimit)

/-- Processes the pending orders and results in the summary. -/
def scheduledBatch (now : Timestamp) (settings : OrderSettings) :
    DeskProgram (Except Failure BatchSummary) :=
  (batch now settings).map (Except.map .ofReports)

end Fulfilment.Processing
