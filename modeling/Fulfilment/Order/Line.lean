import Fulfilment.Decimal.Text
import Fulfilment.Document.Compare
import Fulfilment.Document.Entries

/-!
# Order lines

A line orders a quantity of one product at a unit price. Quantities are whole numbers, and products
are named by texts; a document may hold anything else in their place, which is kept as it is and
stands in the way of the line only when something is done with it.

## Main definitions

* `Quantity` - how many pieces are ordered
* `Line` - a line of an order
* `Line.subtotal` - the price of all its pieces
-/

namespace Fulfilment

/-- How many pieces of a product are ordered. -/
inductive Quantity where
  /-- This many pieces. -/
  | count (n : Int)
  /-- Something else than a whole number. -/
  | other (v : Value)
deriving Repr, Inhabited

namespace Quantity

/-- The quantity that a value stands for. -/
def ofValue : Value → Quantity
  | .int n => .count n
  | v => .other v

/-- The quantity as a document. -/
def document : Quantity → Value
  | .count n => .int n
  | .other v => v

/-- The number of pieces. A truth value counts as one piece or none. -/
def number? : Quantity → Option Int
  | .count n => some n
  | .other (.bool b) => some (if b then 1 else 0)
  | .other _ => none

/-- The quantity as text. -/
def text (q : Quantity) : String := q.document.plain

/-- The number of pieces, or the failure of an operator that needs it. -/
def number (q : Quantity) (otherwise : String → Failure) : Except Failure Int :=
  match q.number? with
  | some n => .ok n
  | none => .error (otherwise q.document.kindName)

/-- The number of pieces as a factor of a price. -/
def factor (q : Quantity) : Except Failure Int :=
  match q with
  | .other (.text _) | .other (.list _) => .error .itemsTimesDecimal
  | q => q.number fun kind => .unsupported "*" "decimal.Decimal" kind

/-- Whether no piece is ordered. A number with a fraction can be compared, though not ordered. -/
def nonPositive (q : Quantity) : Except Failure Bool := q.document.atMost 0

@[simp] theorem number?_count (n : Int) : (count n).number? = some n := rfl

@[simp] theorem factor_count (n : Int) : (count n).factor = .ok n := rfl

@[simp] theorem nonPositive_count (n : Int) : (count n).nonPositive = .ok (decide (n ≤ 0)) := rfl

end Quantity

/-- A line of an order. -/
structure Line where
  /-- The product that is ordered. -/
  productId : Value
  /-- What the product is called on the order. -/
  productName : Value
  /-- How many pieces are ordered. -/
  quantity : Quantity
  /-- The price of one piece. -/
  unitPrice : Decimal
deriving Repr, Inhabited

/-- A result of decimal arithmetic, with the signal of a missing one as a failure. -/
def Failure.ofSignal {α : Type} : Except Decimal.Signal α → Except Failure α
  | .ok a => .ok a
  | .error s => .error (.decimal s)

/-- The decimal number that the plain text of a value writes. -/
def Decimal.ofValue (v : Value) : Except Failure Decimal :=
  Failure.ofSignal (Decimal.ofText v.plain)

namespace Line

/-- The price of all pieces of a line. -/
def subtotal (l : Line) : Except Failure Decimal := do
  let n ← l.quantity.factor
  Failure.ofSignal (l.unitPrice.mul? (.ofInt n))

/-- The line that the members of an object describe. A line without a name for its product is
called by the identifier of the product. -/
def ofFields (fs : Value.Fields) : Except Failure Line := do
  let productId ← Value.member fs "product_id"
  let quantity ← Value.member fs "quantity"
  let price ← Decimal.ofValue (← Value.member fs "unit_price")
  return {
    productId := productId
    productName := (fs.get? "product_name").getD productId
    quantity := .ofValue quantity
    unitPrice := price }

/-- The line that a value describes, which has to be an object. -/
def ofValue : Value → Except Failure Line
  | .object fs => ofFields fs
  | .text _ => .error (.raised .type "string indices must be integers, not 'str'")
  | .list _ => .error (.raised .type "list indices must be integers or slices, not str")
  | v => .error (.notSubscriptable v.kindName)

/-- The line as a document. -/
def document (l : Line) : Value :=
  .object [("product_id", l.productId), ("product_name", l.productName),
    ("quantity", l.quantity.document), ("unit_price", .text l.unitPrice.text)]

end Line

end Fulfilment
