import Fulfilment.Order.Record

/-!
# Changes of an order

A status is written together with further members of the order. Which members may be written is
for the store to say; the identifier, the lines and the status itself are never among them.

## Main definitions

* `Change` - a member of an order with its new value
* `Order.apply` - an order after a change
* `Change.ofFields` - the changes that the members of an object describe
* `Change.refused` - the names of the members that a store does not write
-/

namespace Fulfilment

/-- A member of an order with its new value. -/
inductive Change where
  /-- The name of the customer. -/
  | customerName (name : Value)
  /-- The email address of the customer. -/
  | customerEmail (email : Value)
  /-- The telephone number of the customer. -/
  | customerPhone (phone : Value)
  /-- The total. -/
  | total (amount : Total)
  /-- When the order was entered. -/
  | createdAt (time : Value)
  /-- When the order was changed last. -/
  | updatedAt (time : Value)
  /-- When the order was found fit to process. -/
  | validatedAt (time : Value)
  /-- When the order was called off. -/
  | cancelledAt (time : Value)
  /-- Why the order was called off. -/
  | cancellationReason (reason : Value)
  /-- Whether the stock has been adjusted for the order. -/
  | stockAdjusted (adjusted : Value)
  /-- A member that is not written beside a status. -/
  | other (name : String)
deriving Repr, Inhabited

namespace Change

/-- The name of the member. -/
def name : Change → String
  | customerName _ => "customer_name"
  | customerEmail _ => "customer_email"
  | customerPhone _ => "customer_phone"
  | total _ => "total"
  | createdAt _ => "created_at"
  | updatedAt _ => "updated_at"
  | validatedAt _ => "validated_at"
  | cancelledAt _ => "cancelled_at"
  | cancellationReason _ => "cancellation_reason"
  | stockAdjusted _ => "stock_adjusted"
  | other name => name

/-- Whether an order has a member of this kind that can be written. -/
def isKnown : Change → Bool
  | other _ => false
  | _ => true

/-- Whether the change belongs to the course that an order takes. -/
def isOfCourse : Change → Bool
  | validatedAt _ | cancelledAt _ | cancellationReason _ | stockAdjusted _ => true
  | _ => false

/-- The change of a named member to a value. -/
def ofNamed (name : String) (v : Value) : Change :=
  match name with
  | "customer_name" => customerName v
  | "customer_email" => customerEmail v
  | "customer_phone" => customerPhone v
  | "total" => total (.other v)
  | "created_at" => createdAt v
  | "updated_at" => updatedAt v
  | "validated_at" => validatedAt v
  | "cancelled_at" => cancelledAt v
  | "cancellation_reason" => cancellationReason v
  | "stock_adjusted" => stockAdjusted v
  | name => other name

/-- Whether a member of this name holds a point in time. -/
def isTime (name : String) : Bool := "_at".toList.reverse.isPrefixOf name.toList.reverse

/-- The change of a named member to the value of a document, where a point in time is a text. -/
def ofEntry (name : String) (v : Value) : Except Failure Change :=
  if isTime name then (Order.timeOf v).map (ofNamed name) else .ok (ofNamed name v)

/-- The changes that the members of an object describe. -/
def ofFields (fs : Value.Fields) : Except Failure (List Change) :=
  fs.mapM fun e => ofEntry e.1.written e.2

/-- The names of the changes that a store does not write, in order, if there are any. -/
def refused (writes : Change → Bool) (changes : List Change) : Option Failure :=
  match (changes.filter fun c => !writes c).map name with
  | [] => none
  | names => some (.unknownFields (names.mergeSort fun a b => a ≤ b))

theorem refused_eq_none_iff {writes : Change → Bool} {changes : List Change} :
    refused writes changes = none ↔ ∀ c ∈ changes, writes c = true := by
  unfold refused
  split
  next h => simpa using h
  next names h =>
    simp only [reduceCtorEq, false_iff]
    intro all
    apply h
    simpa using all

end Change

namespace Order

/-- The order after a change. -/
def apply (o : Order) : Change → Order
  | .customerName name => { o with customerName := name }
  | .customerEmail email => { o with customerEmail := email }
  | .customerPhone phone => { o with customerPhone := phone }
  | .total amount => { o with total := amount }
  | .createdAt time => { o with createdAt := time }
  | .updatedAt time => { o with updatedAt := time }
  | .validatedAt time => { o with validatedAt := time }
  | .cancelledAt time => { o with cancelledAt := time }
  | .cancellationReason reason => { o with cancellationReason := reason }
  | .stockAdjusted adjusted => { o with stockAdjusted := adjusted }
  | .other _ => o

@[simp] theorem id_apply (o : Order) (c : Change) : (o.apply c).id = o.id := by cases c <;> rfl

@[simp] theorem lines_apply (o : Order) (c : Change) : (o.apply c).lines = o.lines := by
  cases c <;> rfl

@[simp] theorem status_apply (o : Order) (c : Change) : (o.apply c).status = o.status := by
  cases c <;> rfl

end Order

end Fulfilment
