import Fulfilment.Processing.Review
import Fulfilment.Settings.Sections
import Fulfilment.Store.Call

/-!
# Validation of orders

Whether an order is fit to process. Looking through an order reads the store and writes nothing;
every check is made, so that all that is wrong is seen at once. Only an order that is not there, or
a check that fails itself, ends the review early.

## Main definitions

* `Validation.isEmail` - whether a text is taken as an email address
* `Validation.customerErrors`, `Validation.lineErrors`, `Validation.totalWarning` - the checks of
  an order in itself
* `Validation.stockFinding` - the check of a line against the stock of its product
* `Validation.review` - the review of an order
* `Validation.markValidated` - marking an order as fit, without a review
-/

namespace Fulfilment.Validation

/-- A character that may stand on either side of the sign in an email address. -/
def isAddressChar (c : Char) : Bool := c ≠ '@' && !Text.isBlank c

/-- Whether a point stands between two characters at least, somewhere in a text. -/
def hasInnerPoint : List Char → Bool
  | [] => false
  | _ :: cs => go cs
where
  /-- Whether a point stands before one character at least. -/
  go : List Char → Bool
    | [] => false
    | c :: cs => (c = '.' && !cs.isEmpty) || go cs

/-- Whether the characters make up an email address: some characters, the sign, and a domain with a
point inside, without blanks. -/
def isEmailChars (cs : List Char) : Bool :=
  let user := cs.takeWhile isAddressChar
  match cs.dropWhile isAddressChar with
  | '@' :: domain => !user.isEmpty && domain.all isAddressChar && hasInnerPoint domain
  | _ => false

/-- Whether a text is taken as an email address. A line break at its end does not matter. -/
def isEmail (s : String) : Bool :=
  let cs := s.toList
  isEmailChars cs || (cs.getLast? = some '\n' && isEmailChars cs.dropLast)

/-- Whether a value names nobody. -/
def isNameless (name : Value) : Except Failure Bool :=
  match name with
  | .text s => .ok (Text.isBlankText s)
  | name => if name.truthy then .error (.noAttribute name.kindName "strip") else .ok true

/-- Whether a value is an email address. -/
def isAddress (email : Value) : Except Failure Bool :=
  match email with
  | .text s => .ok (isEmail s)
  | email => if email.truthy then .error (.notSearchable email.kindName) else .ok false

/-- The errors of the name and the email address of the customer. -/
def customerErrors (o : Order) : Except Failure (List String) := do
  let nameless ← isNameless o.customerName
  let address ← isAddress o.customerEmail
  return (if nameless then ["Customer name is required"] else []) ++
    (if address then [] else ["Customer email is invalid"])

/-- The errors of the quantity and the price of a line. -/
def lineError (l : Line) : Except Failure (List String) := do
  let noPiece ← l.quantity.nonPositive
  let noPrice ← Failure.ofSignal l.unitPrice.nonPositive?
  return (if noPiece then ["Invalid quantity for product " ++ l.productName.plain] else []) ++
    (if noPrice then ["Invalid price for product " ++ l.productName.plain] else [])

/-- The errors of the lines. -/
def lineErrors : List Line → Except Failure (List String)
  | [] => .ok ["Order must contain at least one product"]
  | ls => return (← ls.mapM lineError).flatten

/-- The error of the total. -/
def totalError (o : Order) : Except Failure (List String) := do
  let noTotal ← o.total.nonPositive
  return if noTotal then ["Order total must be greater than 0"] else []

/-- The warning that the total is further from the sum of the subtotals than is tolerated. -/
def totalWarning (tolerance : Binary64) (o : Order) : Except Failure (List String) := do
  let calculated ← o.calculatedTotal
  let tolerance ← Failure.ofSignal (Decimal.ofText tolerance.text)
  let total ← o.total.subtrahend
  let difference ← Failure.ofSignal (do (← calculated.sub? total).abs?)
  let order ← Failure.ofSignal (difference.compare? tolerance)
  return if order = .gt then
    ["Calculated total (" ++ calculated.text ++ ") does not match order total (" ++
      o.total.text ++ ")"]
  else []

/-- What is found in an order by itself. -/
def examine (settings : OrderSettings) (o : Order) : Except Failure Review := do
  let customer ← customerErrors o
  let lines ← lineErrors o.lines
  let total ← totalError o
  let warnings ← totalWarning settings.totalTolerance o
  return ⟨customer ++ lines ++ total, warnings⟩

/-- What is found when a line is held against a product. The stock has to cover the quantity, and
it is low when it does not cover the quantity times a factor. -/
def stockFinding (factor : Binary64) (l : Line) (p : Product) : Except Failure Review := do
  if ← p.stock.isBelow l.quantity then
    return ⟨["Insufficient stock for " ++ p.name.plain ++ ". Available: " ++ p.stock.text ++
      ", requested: " ++ l.quantity.text], []⟩
  let reserve ← l.quantity.times factor
  let isLow ← p.stock.document.precedes (.real reserve)
  return ⟨[], if isLow then ["Stock is low for " ++ p.name.plain] else []⟩

/-- What is found when a line is held against what the store has for its product. -/
def lineFinding (factor : Binary64) (l : Line) : Found Product → Except Failure Review
  | .nothing => .ok ⟨["Product " ++ l.productName.plain ++ " not found"], []⟩
  | .entry p => stockFinding factor l p
  | .other v => .error (.noAttribute v.kindName "stock")

/-- What is found in addition to something found before. -/
def combine (r s : Review) : Review := ⟨r.errors ++ s.errors, r.warnings ++ s.warnings⟩

/-- What is found when lines are held against the products in the store. -/
def checkStock (factor : Binary64) : List Line → StoreProgram (Except Failure Review)
  | [] => .done (.ok ⟨[], []⟩)
  | l :: ls =>
    .call (.product l.productId) fun
    | .error f => .done (.error f)
    | .ok found =>
      match lineFinding factor l found with
      | .error f => .done (.error f)
      | .ok r => (checkStock factor ls).map (Except.map (combine r))

/-- The review that a failure ended, with the warnings before it. -/
def interrupted (f : Failure) (warnings : List String) : Review :=
  .failure ("Error validating order: " ++ f.message) warnings

/-- The review of an order. -/
def review (settings : OrderSettings) (id : Value) : StoreProgram Review :=
  .call (.find id) fun
  | .error f => .done (interrupted f [])
  | .ok .nothing => .done (.failure "Order not found" [])
  | .ok (.other v) => .done (interrupted (.noAttribute v.kindName "customer_name") [])
  | .ok (.entry o) =>
    match examine settings o with
    | .error f => .done (interrupted f [])
    | .ok r =>
      (checkStock settings.lowStockFactor o.lines).map fun
        | .error f => interrupted f r.warnings
        | .ok stock => combine r stock

/-- Marks an order as fit to process, and tells what the store says of the mark. -/
def markValidated (now : Timestamp) (id : Value) : StoreProgram Value :=
  .call (.write id .validated [.validatedAt (.timestamp now)]) fun
  | .ok taken => .done taken
  | .error _ => .done (.bool false)

end Fulfilment.Validation
