import Fulfilment.Document.Entries
import Fulfilment.Schema.Object

/-!
# Reviews

The result of looking through an order before it is processed. Errors stand in the way of
processing, warnings do not.

## Main definitions

* `Review` - errors and warnings
* `Review.isValid` - whether the order may be processed
* `Review.check`, `Review.document` - reading a review from a document and writing it
-/

namespace Fulfilment

/-- What was found while looking through an order. -/
structure Review where
  /-- What stands in the way of processing. -/
  errors : List String
  /-- What is worth noting. -/
  warnings : List String
deriving DecidableEq, Repr, Inhabited

namespace Review

/-- Whether the order may be processed. -/
def isValid (r : Review) : Bool := r.errors.isEmpty

/-- The review that stopped with one error. -/
def failure (message : String) (warnings : List String) : Review := ⟨[message], warnings⟩

/-- The review that the members of an object describe. -/
def ofFields (fs : Value.Fields) : Schema.Checked Review :=
  Review.mk <$> Schema.optional fs "errors" [] (Schema.listOf Schema.text)
    <*> Schema.optional fs "warnings" [] (Schema.listOf Schema.text)

/-- The review that a value describes. -/
def check : Value → Schema.Checked Review := Schema.model "ValidationResult" ofFields

/-- The members of a review that stopped with the given message. The warnings are the parts of a
value, and none if it does not count as given. -/
def failureFields (message warnings : Value) : Except Failure Value.Fields :=
  if warnings.truthy then
    warnings.parts.map fun ws => [("errors", .list [message]), ("warnings", .list ws)]
  else .ok [("errors", .list [message]), ("warnings", .list [])]

/-- The members of a review that stopped, from named arguments: the message, and the warnings if
there are any. -/
def failureOf (args : Value.Fields) : Except Failure Value.Fields :=
  let known := ["message", "warnings"]
  match (args.names.map Name.written).find? fun name => !known.contains name with
  | some name => .error (.argumentUnknown "ValidationResult.failure" name)
  | none =>
    match args.get? "message" with
    | some message => failureFields message ((args.get? "warnings").getD .null)
    | none => .error (.argumentMissing "ValidationResult.failure" "message")

/-- The review as a document. -/
def document (r : Review) : Value :=
  .object [("errors", .list (r.errors.map .text)), ("warnings", .list (r.warnings.map .text)),
    ("is_valid", .bool r.isValid)]

@[simp] theorem isValid_failure (message : String) (warnings : List String) :
    (failure message warnings).isValid = false := rfl

theorem isValid_iff (r : Review) : r.isValid = true ↔ r.errors = [] := by
  simp [isValid]

end Review

end Fulfilment
