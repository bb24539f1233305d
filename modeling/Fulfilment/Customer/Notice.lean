import Fulfilment.Document.Value
import Fulfilment.Order.Status

/-!
# Notices to customers

A customer is sent a confirmation of an order, with its receipt, and is told of a new status.

## Main definitions

* `Notice` - a notice to a customer
* `Notice.record` - a notice as it is noted down
-/

namespace Fulfilment

/-- A notice to a customer. -/
inductive Notice where
  /-- The order is confirmed. -/
  | confirmation (id : Value) (receipt : Option String)
  /-- The order has a new status. -/
  | update (id : Value) (status : Status)
deriving Repr

namespace Notice

/-- The bytes of an attached receipt. -/
def attachmentSize (receipt : Option String) : Nat := (receipt.getD "").utf8ByteSize

/-- The notice as it is noted down, with the size of the receipt in place of the receipt. -/
def record : Notice → Value
  | confirmation id receipt =>
    .object [("type", .text "order_confirmation"), ("order_id", id),
      ("attachment_size", .int (attachmentSize receipt))]
  | update id status =>
    .object [("type", .text "status_update"), ("order_id", id),
      ("status", .text status.word)]

end Notice

end Fulfilment
