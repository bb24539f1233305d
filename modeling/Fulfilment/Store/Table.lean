import Fulfilment.Store.Call
import Fulfilment.Store.Column

/-!
# The store of tables

A store that keeps orders and products as rows of tables. Amounts are stored as binary numbers and
read back in hundredths, times are stored without their offset, and every order has a time of entry
and a time of its last change. A write changes only members that belong to the course of an order,
and it marks the row with the time only if a column changes. An order that is entered again comes
last. A write that fails changes nothing.

## Main definitions

* `LineRow`, `OrderRow`, `ProductRow` - the rows
* `TableStore` - the store
* `OrderRow.ofOrder`, `OrderRow.order` - an order as a row, and read back
* `TableStore.save`, `TableStore.write` - entering an order and writing a status
* `TableStore.respond` - the replies of the store to calls
-/

namespace Fulfilment

/-- A line of an order as a row. -/
structure LineRow where
  /-- The product that is ordered. -/
  productId : String
  /-- What the product is called on the order. -/
  productName : String
  /-- How many pieces are ordered. -/
  quantity : Quantity
  /-- The price of one piece. -/
  unitPrice : Binary64
deriving Repr, Inhabited

/-- An order as a row. -/
structure OrderRow where
  /-- The identifier of the order. -/
  id : String
  /-- The name of the customer. -/
  customerName : Option String
  /-- The email address of the customer. -/
  customerEmail : Option String
  /-- The telephone number of the customer. -/
  customerPhone : Option String
  /-- The rows of the lines. -/
  lines : List LineRow
  /-- The total. -/
  total : Binary64
  /-- The status. -/
  status : Status
  /-- When the order was entered. -/
  createdAt : Timestamp
  /-- When the order was changed last. -/
  updatedAt : Timestamp
  /-- When the order was found fit to process. -/
  validatedAt : Option Timestamp
  /-- When the order was called off. -/
  cancelledAt : Option Timestamp
  /-- Why the order was called off. -/
  cancellationReason : Option String
  /-- Whether the stock has been adjusted for the order. -/
  stockAdjusted : Bool
deriving Repr, Inhabited

namespace LineRow

/-- A line as a row. -/
def ofLine (l : Line) : Except Failure LineRow := do
  let unitPrice ← Column.amount l.unitPrice
  let productId ← Column.text l.productId
  let productName ← Column.text l.productName
  let quantity ← Column.integer l.quantity
  return {
    productId := ← Column.present productId
    productName := ← Column.present productName
    quantity := ← Column.present quantity
    unitPrice := ← Column.present unitPrice }

/-- The lines of an order as rows. The prices of all of them have a form before the first row is
entered. -/
def ofLines (ls : List Line) : Except Failure (List LineRow) := do
  ls.forM fun l => (Column.amount l.unitPrice).map fun _ => ()
  ls.mapM ofLine

/-- The line of a row. -/
def line (r : LineRow) : Line :=
  ⟨.text r.productId, .text r.productName, r.quantity, .ofHundredths r.unitPrice⟩

end LineRow

namespace OrderRow

/-- An order as a new row. The ledger mark is not set, and the time of entry is now, where the order
does not say otherwise. -/
def ofOrder (now : Timestamp) (o : Order) : Except Failure OrderRow := do
  let total ← Column.total o.total
  let stockAdjusted ← Column.flag o.stockAdjusted
  let createdAt ← Column.time o.createdAt
  let validatedAt ← Column.time o.validatedAt
  let cancelledAt ← Column.time o.cancelledAt
  let id ← Column.text o.id
  let customerName ← Column.text o.customerName
  let customerEmail ← Column.text o.customerEmail
  let customerPhone ← Column.text o.customerPhone
  let cancellationReason ← Column.text o.cancellationReason
  let id ← Column.present id
  let total ← Column.present total
  -- The rows of the lines follow that of the order.
  let lines ← LineRow.ofLines o.lines
  return {
    id := id
    customerName := customerName
    customerEmail := customerEmail
    customerPhone := customerPhone
    lines := lines
    total := total
    status := o.status
    createdAt := createdAt.getD now.withoutOffset
    updatedAt := now.withoutOffset
    validatedAt := validatedAt
    cancelledAt := cancelledAt
    cancellationReason := cancellationReason
    stockAdjusted := stockAdjusted.getD false }

/-- The order of a row. -/
def order (r : OrderRow) : Order where
  id := .text r.id
  customerName := .text (r.customerName.getD "")
  customerEmail := .text (r.customerEmail.getD "")
  customerPhone := .ofText? r.customerPhone
  lines := r.lines.map LineRow.line
  total := .decimal (.ofHundredths r.total)
  status := r.status
  createdAt := .timestamp r.createdAt
  updatedAt := .timestamp r.updatedAt
  validatedAt := .ofTimestamp? r.validatedAt
  cancelledAt := .ofTimestamp? r.cancelledAt
  cancellationReason := .ofText? r.cancellationReason
  stockAdjusted := .bool r.stockAdjusted

/-- Whether a change gives a column another value. A time with an offset is never the value of a
column. -/
def isChangedBy (r : OrderRow) : Change → Bool
  | .validatedAt time => !(Value.ofTimestamp? r.validatedAt).same time
  | .cancelledAt time => !(Value.ofTimestamp? r.cancelledAt).same time
  | .cancellationReason reason => !(Value.ofText? r.cancellationReason).same reason
  | .stockAdjusted adjusted => !(Value.bool r.stockAdjusted).same adjusted
  | _ => false

/-- Refuses a value that has no form in its column. -/
def checkForm : Change → Except Failure Unit
  | .validatedAt time | .cancelledAt time => (Column.time time).map fun _ => ()
  | .stockAdjusted adjusted => (Column.flag adjusted).map fun _ => ()
  | _ => .ok ()

/-- Refuses a value that cannot be handed to the table. -/
def checkHandover : Change → Except Failure Unit
  | .cancellationReason reason => (Column.text reason).map fun _ => ()
  | _ => .ok ()

/-- Refuses null in a column that has to be filled. -/
def checkPresence : Change → Except Failure Unit
  | .stockAdjusted .null => .error Column.empty
  | _ => .ok ()

/-- The content of a column, which is null where a value cannot be held. -/
def contentOf {α : Type} (content : Except Failure (Option α)) : Option α :=
  content.toOption.getD none

/-- The row after a change. -/
def apply (r : OrderRow) : Change → OrderRow
  | .validatedAt time => { r with validatedAt := contentOf (Column.time time) }
  | .cancelledAt time => { r with cancelledAt := contentOf (Column.time time) }
  | .cancellationReason reason =>
    { r with cancellationReason := contentOf (Column.text reason) }
  | .stockAdjusted adjusted =>
    { r with stockAdjusted := (contentOf (Column.flag adjusted)).getD false }
  | _ => r

/-- The row with a status and changes written to it. Only columns that change are written. -/
def written (now : Timestamp) (status : Status) (changes : List Change) (r : OrderRow) :
    Except Failure OrderRow := do
  -- The row is compared with what it held before the first of the changes.
  let changes := changes.filter r.isChangedBy
  changes.forM checkForm
  changes.forM checkHandover
  changes.forM checkPresence
  let changed := r.status ≠ status || !changes.isEmpty
  let r := changes.foldl apply { r with status := status }
  return if changed then { r with updatedAt := now.withoutOffset } else r

end OrderRow

/-- A product as a row. -/
structure ProductRow where
  /-- The identifier of the product. -/
  id : String
  /-- What the product is called. -/
  name : String
  /-- How many pieces are in stock. -/
  stock : Quantity
deriving Repr, Inhabited

namespace ProductRow

/-- A product as a new row. The stock is zero where the product does not say otherwise. -/
def ofProduct (p : Product) : Except Failure ProductRow := do
  let id ← Column.text p.id
  let name ← Column.text p.name
  let stock ← match p.stock with
    | .other .null => .ok (some (.count 0))
    | stock => Column.integer stock
  return { id := ← Column.present id, name := ← Column.present name
           stock := ← Column.present stock }

/-- The product of a row. -/
def product (r : ProductRow) : Product := ⟨.text r.id, .text r.name, r.stock⟩

/-- The name that a row holds after another was written to it. Only a name that differs is
written. -/
def renamed (r : ProductRow) (name : Value) : Except Failure (Option String) :=
  if (Value.text r.name).same name then .ok (some r.name) else Column.text name

/-- The stock that a row holds after another was written to it. Only a stock that differs is
written. -/
def restocked (r : ProductRow) (stock : Quantity) : Except Failure (Option Quantity) :=
  if r.stock.document.same stock.document then .ok (some r.stock) else Column.integer stock

/-- The row with the name and the stock of a product written to it. -/
def revised (r : ProductRow) (p : Product) : Except Failure ProductRow := do
  let name ← r.renamed p.name
  let stock ← r.restocked p.stock
  return { r with name := ← Column.present name, stock := ← Column.present stock }

end ProductRow

/-- A store of orders and products in tables. -/
structure TableStore where
  /-- The rows of the orders, the oldest first. -/
  orders : List OrderRow := []
  /-- The rows of the products by their identifiers. -/
  products : Catalog String ProductRow := []
deriving Repr, Inhabited

namespace TableStore

/-- The row of an order. Null is no identifier of a row. -/
def row? (s : TableStore) (id : Value) : Except Failure (Option OrderRow) := do
  return (← Column.key id).bind fun id => s.orders.find? (·.id = id)

/-- Enters an order as the last row, in the place of one of the same identifier. -/
def save (s : TableStore) (now : Timestamp) (o : Order) : Except Failure TableStore := do
  -- An identifier under which no row can be looked up is refused first.
  let _ ← s.row? o.id
  let row ← OrderRow.ofOrder now o
  return { s with orders := s.orders.filter (·.id ≠ row.id) ++ [row] }

/-- The order of an identifier. Null is no identifier of a row. -/
def find (s : TableStore) (id : Value) : Except Failure (Option Order) := do
  return ((← Column.text id).bind fun id => s.orders.find? (·.id = id)).map OrderRow.order

/-- The row of a product. -/
def productRow? (s : TableStore) (id : Value) : Except Failure (Option ProductRow) := do
  return (← Column.key id).bind s.products.get?

/-- The product of an identifier. -/
def product (s : TableStore) (id : Value) : Except Failure (Option Product) :=
  (s.productRow? id).map (Option.map ProductRow.product)

/-- Enters a product, replacing one of the same identifier. -/
def saveProduct (s : TableStore) (p : Product) : Except Failure TableStore := do
  let row ← match ← s.productRow? p.id with
    | some r => r.revised p
    | none => ProductRow.ofProduct p
  return { s with products := s.products.put row.id row }

/-- Replaces the row of an order. -/
def replace (s : TableStore) (row : OrderRow) : TableStore :=
  { s with orders := s.orders.map fun r => if r.id = row.id then row else r }

/-- Writes a status and changes to an order. Changes that do not belong to the course of an order
are refused in any case. -/
def write (s : TableStore) (now : Timestamp) (id : Value) (status : Status)
    (changes : List Change) : Except Failure Value × TableStore :=
  match Change.refused Change.isOfCourse changes with
  | some f => (.error f, s)
  | none =>
    match s.row? id with
    | .error f => (.error f, s)
    | .ok none => (.ok (.bool false), s)
    | .ok (some r) =>
      match r.written now status changes with
      | .error f => (.error f, s)
      | .ok row => (.ok (.bool true), s.replace row)

/-- Refuses to write a word that names no status. -/
def writeUnknown (s : TableStore) (id : Value) (word : Value) (changes : List Change) :
    Except Failure Value := do
  if let some f := Change.refused Change.isOfCourse changes then throw f
  match ← s.row? id with
  | some _ => Status.refused word
  | none => return .bool false

/-- Writes the stock of a product. -/
def setStock (s : TableStore) (id : Value) (stock : Quantity) :
    Except Failure Value × TableStore :=
  match s.productRow? id with
  | .error f => (.error f, s)
  | .ok none => (.ok (.bool false), s)
  | .ok (some r) =>
    match (r.restocked stock).bind Column.present with
    | .error f => (.error f, s)
    | .ok stock =>
      (.ok (.bool true), { s with products := s.products.put r.id { r with stock := stock } })

/-- The identifiers of the orders in a status, the oldest first, and at one time of entry in the
order of the rows. -/
def withStatus (s : TableStore) (status : Status) (limit : Value) :
    Except Failure (List Value) := do
  let limit ← Column.limit limit
  let rows := (s.orders.filter (·.status = status)).mergeSort
    fun a b => a.createdAt.localLe b.createdAt
  let ids := rows.map fun r => Value.text r.id
  return match limit with
    | some n => ids.take n
    | none => ids

/-- The word for the status of each order. -/
def statuses (s : TableStore) : List Value := s.orders.map (.text ·.status.word)

/-- The replies of the store. -/
def respond (now : Timestamp) : Program.Responder StoreCall StoreCall.Reply TableStore
  | .find id, s => ((s.find id).map Found.ofOption, s)
  | .write id status changes, s => s.write now id status changes
  | .product id, s => ((s.product id).map Found.ofOption, s)
  | .writeUnknown id word changes, s => (s.writeUnknown id word changes, s)
  | .setStock id stock, s => s.setStock id stock
  | .withStatus status limit, s => ((s.withStatus status limit).map .list, s)
  | .withUnknownStatus word _, s => (Status.refused word, s)
  | .statuses, s => (.ok (.list s.statuses), s)

end TableStore

end Fulfilment
