import Fulfilment.Document.Literal
import Fulfilment.Store.Call

/-!
# Faults

A rehearsal disturbs the calls on a store by faults. A fault concerns the calls of one method,
perhaps only those with certain arguments, and among these perhaps only the one of a certain number
or those from a number on. A call is answered by the first fault that takes effect on it; a fault
counts the calls that concern it and that no fault before it has answered.

## Main definitions

* `Turns` - which of the calls, by number, a fault takes effect on
* `StoreFault` - a fault of a store
* `StoreFault.consult` - the answer of some faults to a call, and their counts after it
-/

namespace Fulfilment.Rehearsal

/-- Which of the calls that concern a fault it takes effect on. -/
structure Turns where
  /-- Only the call of this number. -/
  only : Option Int := none
  /-- The calls from this number on. -/
  since : Option Int := none
deriving DecidableEq, Repr, Inhabited

/-- Whether the call of a number is among them. -/
def Turns.includes (t : Turns) (n : Nat) : Bool :=
  t.only.all (· = (n : Int)) && t.since.all (· ≤ (n : Int))

/-- The methods of a store. -/
inductive StoreMethod where
  /-- Asking for an order. -/
  | find
  /-- Writing a status. -/
  | write
  /-- Asking for a product. -/
  | product
  /-- Writing a stock. -/
  | setStock
  /-- Asking for the orders in a status. -/
  | withStatus
  /-- Asking for all statuses. -/
  | statuses
deriving DecidableEq, Repr, Inhabited

/-- The method of a call. -/
def methodOf : StoreCall → StoreMethod
  | .find _ => .find
  | .write .. | .writeUnknown .. => .write
  | .product _ => .product
  | .setStock .. => .setStock
  | .withStatus .. | .withUnknownStatus .. => .withStatus
  | .statuses => .statuses

/-- The order that a call concerns. -/
def orderOf : StoreCall → Option Value
  | .find id | .write id _ _ | .writeUnknown id _ _ => some id
  | _ => none

/-- The product that a call concerns. -/
def productOf : StoreCall → Option Value
  | .product id | .setStock id _ => some id
  | _ => none

/-- The word for the status that a call concerns. -/
def statusOf : StoreCall → Option Value
  | .write _ status _ | .withStatus status _ => some (.text status.word)
  | .writeUnknown _ word _ | .withUnknownStatus word _ => some word
  | _ => none

/-- Whether what a call concerns is what a fault is for, where nothing is for everything. -/
def isFor (wanted concerned : Option Value) : Bool :=
  wanted.all fun w => concerned.any w.same

/-- What a fault does to a call. -/
inductive FaultEffect where
  /-- The call fails. -/
  | fail (f : Failure)
  /-- The call is answered by a value. -/
  | answer (v : Value)
  /-- A call for a product is answered by one of this name and stock. -/
  | stock (name : Value) (stock : Quantity)
deriving Repr, Inhabited

/-- A fault of a store. -/
structure StoreFault where
  /-- The method that is disturbed. -/
  method : StoreMethod
  /-- Only calls that concern this order. -/
  order : Option Value := none
  /-- Only calls that concern this product. -/
  product : Option Value := none
  /-- Only calls that concern the status of this word. -/
  status : Option Value := none
  /-- The calls, by number, that the fault takes effect on. -/
  turns : Turns := {}
  /-- What the fault does. -/
  effect : FaultEffect
  /-- How many calls have concerned the fault. -/
  count : Nat := 0
deriving Repr, Inhabited

namespace StoreFault

/-- Whether a call concerns a fault. -/
def concerns (f : StoreFault) (c : StoreCall) : Bool :=
  f.method = methodOf c && isFor f.order (orderOf c) && isFor f.product (productOf c) &&
    isFor f.status (statusOf c)

/-- The first fault that takes effect on a call, and the faults with their counts after it. -/
def firstEffect (c : StoreCall) : List StoreFault → Option FaultEffect × List StoreFault
  | [] => (none, [])
  | f :: fs =>
    if f.concerns c then
      let f := { f with count := f.count + 1 }
      if f.turns.includes f.count then (some f.effect, f :: fs)
      else
        -- A fault that lets the call pass has counted it all the same.
        let (effect, fs) := firstEffect c fs
        (effect, f :: fs)
    else
      let (effect, fs) := firstEffect c fs
      (effect, f :: fs)

/-- A value in the place of what was looked for. -/
def found {α : Type} : Value → Found α
  | .null => .nothing
  | v => .other v

/-- A product as a value. -/
def productValue (name : Value) (stock : Quantity) : Value :=
  .object [("name", name), ("stock", stock.document)]

/-- What an effect replies to a call. -/
def reply (effect : FaultEffect) (c : StoreCall) : c.Reply :=
  match effect with
  | .fail f => c.failed f
  | .answer v =>
    match c with
    | .find _ => .ok (found v)
    | .product _ => .ok (found v)
    | .write .. | .writeUnknown .. | .setStock .. | .withStatus .. | .withUnknownStatus ..
    | .statuses => .ok v
  | .stock name stock =>
    match c with
    | .product id => .ok (.entry ⟨id, name, stock⟩)
    | .find _ => .ok (found (productValue name stock))
    | .write .. | .writeUnknown .. | .setStock .. | .withStatus .. | .withUnknownStatus ..
    | .statuses => .ok (productValue name stock)

/-- The answer of some faults to a call, and the faults with their counts after it. -/
def consult (faults : List StoreFault) (c : StoreCall) : Option c.Reply × List StoreFault :=
  let (effect, faults) := firstEffect c faults
  (effect.map (reply · c), faults)

@[simp] theorem consult_nil (c : StoreCall) : consult [] c = (none, []) := rfl

end StoreFault

end Fulfilment.Rehearsal
