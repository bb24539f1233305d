import Fulfilment.Store.Call

/-!
# Receipts

The receipt of an order in plain text: a heading, the customer, the time of issue, the lines with
their subtotals, and the total.

## Main definitions

* `Receipt.print` - the receipt of an order from a store
-/

namespace Fulfilment.Receipt

/-- The heading of a receipt. -/
def defaultHeading : String := "Order Receipt"

/-- A line with its subtotal. -/
def row (l : Line) : Except Failure String := do
  let subtotal ← l.subtotal
  return l.quantity.text ++ " x " ++ l.productName.plain ++ " @ " ++ l.unitPrice.text ++ " = " ++
    subtotal.text

/-- The receipt of an order. -/
def text (heading : String) (now : Timestamp) (o : Order) : Except Failure String := do
  let rows ← o.lines.mapM row
  return String.intercalate "\n" <|
    [heading, "Order: " ++ o.id.plain,
      "Customer: " ++ o.customerName.plain ++ " <" ++ o.customerEmail.plain ++ ">",
      "Issued: " ++ now.iso, ""] ++ rows ++ ["", "TOTAL: " ++ o.total.text]

/-- The receipt of an order from a store. -/
def print (heading : String) (now : Timestamp) (id : Value) :
    StoreProgram (Except Failure String) :=
  .call (.find id) fun
  | .error f => .done (.error f)
  | .ok .nothing => .done (.error (.orderNotFound id.plain))
  | .ok (.entry o) => .done (text heading now o)
  | .ok (.other v) => .done (.error (.noAttribute v.kindName "id"))

end Fulfilment.Receipt
