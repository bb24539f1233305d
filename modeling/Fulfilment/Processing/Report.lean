import Fulfilment.Order.Status
import Fulfilment.Schema.Object

/-!
# Reports

What processing tells about its work: a report for each order, a summary for a batch of them, and a
census of the states of all orders.

## Main definitions

* `Report` - the result of processing an order
* `BatchSummary` - how many orders of a batch were processed
* `Census` - how many orders are in each state
-/

namespace Fulfilment

/-- The result of processing an order. -/
structure Report where
  /-- Whether the order is completed. -/
  success : Bool
  /-- The order. -/
  orderId : String
  /-- The result in a few words. -/
  message : String
  /-- What stood in the way. -/
  errors : Option (List String) := none
  /-- What is worth noting. -/
  warnings : Option (List String) := none
deriving DecidableEq, Repr, Inhabited

/-- A list of texts, or null when there is none. -/
def Value.ofTexts? : Option (List String) → Value
  | some ts => .list (ts.map .text)
  | none => .null

namespace Report

/-- The report that the members of an object describe. -/
def ofFields (fs : Value.Fields) : Schema.Checked Report :=
  Report.mk <$> Schema.required fs "success" Schema.boolean
    <*> Schema.required fs "order_id" Schema.text
    <*> Schema.required fs "message" Schema.text
    <*> Schema.perhaps fs "errors" (Schema.listOf Schema.text)
    <*> Schema.perhaps fs "warnings" (Schema.listOf Schema.text)

/-- The report that a value describes. -/
def check : Value → Schema.Checked Report := Schema.model "ProcessingResult" ofFields

/-- The report on the order of an identifier, which can be made if the identifier is a text. -/
def about (id : Value) (r : Report) : Except Failure Report :=
  match id with
  | .text _ => .ok r
  | _ => .error (.invalid [⟨[.key "order_id"], .notText⟩])

@[simp] theorem about_text (id : String) (r : Report) : about (.text id) r = .ok r := rfl

/-- The report as a document. -/
def document (r : Report) : Value :=
  .object [("success", .bool r.success), ("order_id", .text r.orderId),
    ("message", .text r.message), ("errors", .ofTexts? r.errors),
    ("warnings", .ofTexts? r.warnings)]

end Report

/-- How many orders of a batch were processed. -/
structure BatchSummary where
  /-- The orders of the batch. -/
  attempted : Int
  /-- Those that are completed. -/
  succeeded : Int
  /-- Those that are not. -/
  failed : Int
deriving DecidableEq, Repr, Inhabited

namespace BatchSummary

/-- The summary of the results of a batch. -/
def ofResults (results : List Bool) : BatchSummary :=
  let succeeded := results.count true
  { attempted := results.length, succeeded := succeeded, failed := results.length - succeeded }

/-- The summary of the reports of a batch. -/
def ofReports (reports : List Report) : BatchSummary := ofResults (reports.map (·.success))

/-- The summary that the members of an object describe. -/
def ofFields (fs : Value.Fields) : Schema.Checked BatchSummary :=
  BatchSummary.mk <$> Schema.required fs "attempted" (Schema.integerAtLeast 0)
    <*> Schema.required fs "succeeded" (Schema.integerAtLeast 0)
    <*> Schema.required fs "failed" (Schema.integerAtLeast 0)

/-- The summary that a value describes. -/
def check : Value → Schema.Checked BatchSummary := Schema.model "BatchSummary" ofFields

/-- The summary as a document. -/
def document (s : BatchSummary) : Value :=
  .object [("attempted", .int s.attempted), ("succeeded", .int s.succeeded),
    ("failed", .int s.failed)]

end BatchSummary

/-- How many orders are in each state. -/
structure Census where
  /-- All orders. -/
  total : Int
  /-- The orders in each state that occurs. -/
  byStatus : Catalog String Int
  /-- The pending orders. -/
  pending : Int
  /-- The validated orders. -/
  validated : Int
  /-- The orders that are being processed. -/
  processing : Int
  /-- The completed orders. -/
  completed : Int
  /-- The cancelled orders. -/
  cancelled : Int
deriving DecidableEq, Repr, Inhabited

namespace Census

/-- How often each word occurs in a list, in the order in which the words occur first. -/
def tally (words : List String) : Catalog String Int :=
  words.foldl (fun c w => c.put w ((c.get? w).getD 0 + 1)) []

/-- The census of a list that names the state of each order. -/
def ofWords (words : List String) : Census :=
  let counts := tally words
  let count (s : Status) := (counts.get? s.word).getD 0
  { total := words.length
    byStatus := counts
    pending := count .pending
    validated := count .validated
    processing := count .processing
    completed := count .completed
    cancelled := count .cancelled }

/-- The census that the members of an object describe. -/
def ofFields (fs : Value.Fields) : Schema.Checked Census :=
  Census.mk <$> Schema.required fs "total" (Schema.integerAtLeast 0)
    <*> Schema.optional fs "by_status" [] (Schema.objectOf Schema.integer)
    <*> Schema.optional fs "pending" 0 (Schema.integerAtLeast 0)
    <*> Schema.optional fs "validated" 0 (Schema.integerAtLeast 0)
    <*> Schema.optional fs "processing" 0 (Schema.integerAtLeast 0)
    <*> Schema.optional fs "completed" 0 (Schema.integerAtLeast 0)
    <*> Schema.optional fs "cancelled" 0 (Schema.integerAtLeast 0)

/-- The census that a value describes. -/
def check : Value → Schema.Checked Census := Schema.model "ProcessingStats" ofFields

/-- The census as a document. -/
def document (c : Census) : Value :=
  .object [("total", .int c.total),
    ("by_status", .object (c.byStatus.map fun e => (e.1, .int e.2))),
    ("pending", .int c.pending), ("validated", .int c.validated),
    ("processing", .int c.processing), ("completed", .int c.completed),
    ("cancelled", .int c.cancelled)]

end Census

end Fulfilment
