import Fulfilment.Document.Sorting
import Fulfilment.Order.Line

/-!
# Products

A product is in stock in a quantity. The stock is a whole number in a proper product; a document may
hold anything else in its place, which is kept as it is and stands in the way of the product only
when a quantity is held against it or taken out of it.

## Main definitions

* `Product` - a product with its stock
* `Quantity.isBelow`, `Quantity.times` - holding a quantity against a stock
* `Quantity.without?` - what is left of a stock when a quantity is taken out

## Main results

* `Quantity.isBelow_count`, `Quantity.without?_count` - whole numbers are compared and subtracted as
  integers
-/

namespace Fulfilment

namespace Quantity

/-- Whether a stock is below a quantity. -/
def isBelow (stock wanted : Quantity) : Except Failure Bool :=
  stock.document.precedes wanted.document

/-- A number as a binary one, if it is within their range. -/
def realOf? : Int ⊕ Binary64 → Option Binary64
  | .inl n => Binary64.ofInt? n
  | .inr x => some x

/-- The quantity times a factor. -/
def times (q : Quantity) (factor : Binary64) : Except Failure Binary64 :=
  match q.document.number? with
  | none => .error (.unsupported "*" q.document.kindName "float")
  | some m =>
    match realOf? m with
    | none => .error .integerTooLarge
    | some x => .ok (x.mul factor)

/-- What is left of a stock when a quantity is taken out, and nothing at least. Only numbers can be
taken out of numbers. -/
def without? (stock taken : Quantity) : Option Quantity :=
  match stock.document.number?, taken.document.number? with
  | some (.inl m), some (.inl n) => some (.count (max 0 (m - n)))
  | some m, some n => do
    let rest := (← realOf? m).sub (← realOf? n)
    return if Binary64.zero < rest then .other (.real rest) else .count 0
  | _, _ => none

@[simp] theorem isBelow_count (m n : Int) :
    (count m).isBelow (count n) = .ok (decide (m < n)) := by
  simp [isBelow, document]

@[simp] theorem without?_count (m n : Int) :
    (count m).without? (count n) = some (.count (max 0 (m - n))) := rfl

end Quantity

/-- A product with its stock. -/
structure Product where
  /-- The identifier of the product. -/
  id : Value
  /-- What the product is called. -/
  name : Value
  /-- How many pieces are in stock. -/
  stock : Quantity
deriving Repr, Inhabited

namespace Product

/-- The product that the members of an object describe. -/
def ofFields (fs : Value.Fields) : Except Failure Product := do
  let id ← Value.member fs "product_id"
  let name ← Value.member fs "name"
  let stock ← Value.member fs "stock"
  return ⟨id, name, .ofValue stock⟩

/-- The product as a document. -/
def document (p : Product) : Value :=
  .object [("product_id", p.id), ("name", p.name), ("stock", p.stock.document)]

end Product

end Fulfilment
