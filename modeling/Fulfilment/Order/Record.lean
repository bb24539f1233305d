import Fulfilment.Document.Entries
import Fulfilment.Order.Line
import Fulfilment.Order.Status
import Fulfilment.Time.Iso

/-!
# Orders

An order names a customer and lists what is ordered. Its status says how far it has come, and its
ledger mark says whether the stock of its products has been adjusted for it: once set, the mark
keeps a later attempt from adjusting the stock again.

The identifier, the particulars of the customer, the times and the ledger mark are values of a
document: texts, timestamps and truth values in a proper order, and anything else in an order that
was not filled in with care.

## Main definitions

* `Total` - the total of an order
* `Order` - an order
* `Order.calculatedTotal` - the sum of the subtotals
* `Order.ofFields`, `Order.document` - reading an order from a document and writing it
-/

namespace Fulfilment

/-- The total of an order, as it was agreed. -/
inductive Total where
  /-- A decimal number. -/
  | decimal (d : Decimal)
  /-- Something else that was written in the place of a decimal number. -/
  | other (v : Value)
deriving Repr, Inhabited

namespace Total

/-- The total as text. -/
def text : Total → String
  | decimal d => d.text
  | other v => v.plain

/-- The total as a document. -/
def document : Total → Value
  | decimal d => .text d.text
  | other v => v

/-- Whether the total is not above zero. -/
def nonPositive : Total → Except Failure Bool
  | decimal d => Failure.ofSignal d.nonPositive?
  | other v => v.atMost 0

/-- The total as the number that is taken from another. Only whole numbers and truth values take the
place of a decimal number. -/
def subtrahend : Total → Except Failure Decimal
  | decimal d => .ok d
  | other (.int n) => .ok (.ofInt n)
  | other (.bool b) => .ok (.ofInt (if b then 1 else 0))
  | other v => .error (.unsupported "-" "decimal.Decimal" v.kindName)

@[simp] theorem subtrahend_decimal (d : Decimal) : (decimal d).subtrahend = .ok d := rfl

@[simp] theorem nonPositive_decimal (d : Decimal) :
    (decimal d).nonPositive = Failure.ofSignal d.nonPositive? := rfl

end Total

/-- An order. -/
structure Order where
  /-- The identifier of the order. -/
  id : Value
  /-- The name of the customer. -/
  customerName : Value
  /-- The email address of the customer. -/
  customerEmail : Value
  /-- The telephone number of the customer. -/
  customerPhone : Value := .null
  /-- What is ordered. -/
  lines : List Line := []
  /-- The total. -/
  total : Total := .decimal .zero
  /-- How far the order has come. -/
  status : Status := .pending
  /-- When the order was entered. -/
  createdAt : Value := .null
  /-- When the order was changed last. -/
  updatedAt : Value := .null
  /-- When the order was found fit to process. -/
  validatedAt : Value := .null
  /-- When the order was called off. -/
  cancelledAt : Value := .null
  /-- Why the order was called off. -/
  cancellationReason : Value := .null
  /-- Whether the stock has been adjusted for the order. -/
  stockAdjusted : Value := .bool false
deriving Repr, Inhabited

namespace Order

/-- The sum of the subtotals, added to zero from the first line to the last. -/
def calculatedTotal (o : Order) : Except Failure Decimal :=
  o.lines.foldlM (fun sum l => do Failure.ofSignal (sum.add? (← l.subtotal))) .zero

/-- A point in time where a text writes one, and any other value as it is. -/
def timeOf : Value → Except Failure Value
  | .text s =>
    match Timestamp.ofIso s with
    | .ok t => .ok (.timestamp t)
    | .error why => .error (.raised .value (why.message s))
  | v => .ok v

/-- The lines that a value describes. -/
def linesOf (v : Value) : Except Failure (List Line) := do (← v.parts).mapM Line.ofValue

/-- The names of the members of an order. -/
def memberNames : List String :=
  ["id", "customer_name", "customer_email", "customer_phone", "lines", "total", "status",
    "created_at", "updated_at", "validated_at", "cancelled_at", "cancellation_reason",
    "stock_adjusted"]

/-- Refuses members that an order does not have, and an order without an identifier. -/
def checkMembers (fs : Value.Fields) : Except Failure Unit :=
  match (fs.names.map Name.written).find? fun name => !memberNames.contains name with
  | some name => .error (.argumentUnknown "Order.__init__" name)
  | none => if fs.has "id" then .ok () else .error (.argumentMissing "Order.__init__" "id")

/-- The order that the members of an object describe. The lines are read before the times, these
before the names of the members are looked at, and the total before the status. -/
def ofFields (fs : Value.Fields) : Except Failure Order := do
  let get (name : String) := (fs.get? name).getD .null
  let lines ← linesOf ((fs.get? "lines").getD (.list []))
  let createdAt ← timeOf (get "created_at")
  let updatedAt ← timeOf (get "updated_at")
  let validatedAt ← timeOf (get "validated_at")
  let cancelledAt ← timeOf (get "cancelled_at")
  checkMembers fs
  let total ← Decimal.ofValue ((fs.get? "total").getD (.int 0))
  let status ← Status.ofValue ((fs.get? "status").getD Status.pending.word)
  return {
    id := get "id"
    customerName := get "customer_name"
    customerEmail := get "customer_email"
    customerPhone := get "customer_phone"
    lines := lines
    total := .decimal total
    status := status
    createdAt := createdAt
    updatedAt := updatedAt
    validatedAt := validatedAt
    cancelledAt := cancelledAt
    cancellationReason := get "cancellation_reason"
    stockAdjusted := (fs.get? "stock_adjusted").getD (.bool false) }

/-- The order as a document. -/
def document (o : Order) : Value :=
  .object [("id", o.id), ("customer_name", o.customerName), ("customer_email", o.customerEmail),
    ("customer_phone", o.customerPhone), ("lines", .list (o.lines.map Line.document)),
    ("total", o.total.document), ("status", .text o.status.word), ("created_at", o.createdAt),
    ("updated_at", o.updatedAt), ("validated_at", o.validatedAt),
    ("cancelled_at", o.cancelledAt), ("cancellation_reason", o.cancellationReason),
    ("stock_adjusted", o.stockAdjusted)]

end Order

end Fulfilment
