import Fulfilment.Processing.Desk
import Fulfilment.Processing.Pipeline
import Fulfilment.Processing.Validation

/-!
# The steps of processing

An order that is fit to process is marked as validated and as being processed, its receipt is
printed, the customer gets a confirmation, the stock is adjusted, the order is marked as completed,
and the customer is told. Neither the customer nor the stock holds an order up: these steps are
done on a best effort.

The stock is adjusted once for an order. The ledger mark is written after the stock of all lines,
and an order that bears it is passed over.

## Main definitions

* `Processing.steps` - the seven steps
* `Processing.adjustLine` - taking the quantity of a line out of the stock
-/

namespace Fulfilment.Processing

/-- A step that leaves the run as it is. -/
def leave (r : Run) (f : Option Failure) : DeskProgram StepResult := .done (r, f)

/-- Writes a status, and fails when the store does not take it. -/
def writeStatus (status : Status) (r : Run) : DeskProgram StepResult :=
  .call (.store (.write r.order.id status [])) fun
  | .ok taken =>
    if taken.truthy then leave r none
    else leave r (some (.statusNotWritten r.order.id.plain status.word))
  | .error f => leave r (some f)

/-- Marks the order as validated. -/
def markValidated (now : Timestamp) (r : Run) : DeskProgram StepResult :=
  (Validation.markValidated now r.order.id).atDesk.bind fun taken =>
    if taken.truthy then leave r none else leave r (some .notMarkedValidated)

/-- Prints the receipt. -/
def printReceipt (r : Run) : DeskProgram StepResult :=
  .call (.print r.order.id) fun
  | .ok receipt => leave { r with receipt := some receipt } none
  | .error f => leave r (some f)

/-- Confirms the order to the customer. -/
def sendConfirmation (r : Run) : DeskProgram StepResult :=
  .call (.confirm r.order.id r.receipt) fun
  | .ok true => leave r none
  | .ok false => leave (r.warn "Order confirmation could not be delivered") none
  | .error f => leave r (some f)

/-- The warning that the stock of a line was not adjusted. -/
def notUpdated (l : Line) : String := "Stock for " ++ l.productName.plain ++ " was not updated"

/-- Takes the quantity of a line out of the stock of its product, down to nothing at most, and
results in the warning if this did not work. -/
def adjustLine (l : Line) : DeskProgram (Option String) :=
  .call (.store (.product l.productId)) fun
  | .error _ => .done (some (notUpdated l))
  | .ok .nothing =>
    .done (some ("Product " ++ l.productName.plain ++ " not found while adjusting stock"))
  | .ok (.other _) => .done (some (notUpdated l))
  | .ok (.entry p) =>
    match p.stock.without? l.quantity with
    | none => .done (some (notUpdated l))
    | some rest =>
      .call (.store (.setStock l.productId rest)) fun
      | .ok _ => .done none
      | .error _ => .done (some (notUpdated l))

/-- Takes the quantities of lines out of the stock, and results in the warnings. -/
def adjustLines : List Line → DeskProgram (List String)
  | [] => .done []
  | l :: ls => (adjustLine l).bind fun warning => (adjustLines ls).map (warning.toList ++ ·)

/-- Writes the ledger mark. -/
def writeLedger (r : Run) : DeskProgram StepResult :=
  .call (.store (.write r.order.id .processing [.stockAdjusted (.bool true)])) fun
  | .ok _ => leave { r with order := { r.order with stockAdjusted := .bool true } } none
  | .error f => leave r (some f)

/-- Adjusts the stock, unless the order bears the ledger mark, and writes the mark. -/
def adjustInventory (r : Run) : DeskProgram StepResult :=
  if r.order.stockAdjusted.truthy then leave r none
  else
    -- The ledger mark is written after all lines, even when some of them were not adjusted.
    (adjustLines r.order.lines).bind fun warnings =>
      writeLedger { r with warnings := r.warnings ++ warnings }

/-- Tells the customer of a status. Whether this works does not matter. -/
def notify (id : Value) (status : Status) : DeskProgram Unit :=
  .call (.tell id status) fun _ => .done ()

/-- Tells the customer that the order is completed. -/
def notifyCompleted (r : Run) : DeskProgram StepResult :=
  (notify r.order.id .completed).map fun _ => (r, none)

/-- The steps of processing, in order. -/
def steps (now : Timestamp) : List (Step DeskCall DeskCall.Reply) :=
  [⟨"mark_validated", .required, markValidated now⟩,
    ⟨"mark_processing", .required, writeStatus .processing⟩,
    ⟨"render_proof", .required, printReceipt⟩,
    ⟨"send_confirmation", .bestEffort, sendConfirmation⟩,
    ⟨"adjust_inventory", .bestEffort, adjustInventory⟩,
    ⟨"mark_completed", .required, writeStatus .completed⟩,
    ⟨"notify_completed", .bestEffort, notifyCompleted⟩]

end Fulfilment.Processing
