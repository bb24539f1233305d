import Fulfilment.Decimal.Basic
import Fulfilment.Document.Literal
import Fulfilment.Schema.Checked

/-!
# Failures

The reasons why an operation has no result, each with its kind and its message. The failures of
collaborators - stores, renderers, notifiers, handlers of actions - are among them, so that they
can be handed on and reported like any other.

## Main definitions

* `Failure` - the reasons
* `Failure.kind` - the name of the kind of a failure
* `Failure.message` - what a report says about it
* `Failure.report` - the message, or the kind where the message is empty

## Main results

* `Failure.bind_eq_ok_iff`, `Failure.mapM_eq_ok` - when a chain of operations has a result
* `Failure.mapM_eq_map` - what an operation on all items of a list results in
-/

namespace Fulfilment

/-- The kinds of failure that a collaborator may raise. -/
inductive FailureKind where
  /-- A failure of no particular kind. -/
  | runtime
  /-- Something could not be reached. -/
  | connection
  /-- A value was not acceptable. -/
  | value
  /-- A key was not found. -/
  | key
  /-- A value was of the wrong kind. -/
  | type
deriving DecidableEq, Repr

/-- The name of a kind. -/
def FailureKind.name : FailureKind → String
  | .runtime => "RuntimeError"
  | .connection => "ConnectionError"
  | .value => "ValueError"
  | .key => "KeyError"
  | .type => "TypeError"

/-- The kind of a given name. -/
def FailureKind.ofName? (name : String) : Option FailureKind :=
  [runtime, connection, value, key, type].find? (·.name = name)

/-- Why an operation has no result. -/
inductive Failure where
  /-- A collaborator failed, and gave a detail, which is a text as a rule. -/
  | raised (kind : FailureKind) (detail : Value)
  /-- A document does not have the form it should have. -/
  | invalid (issues : List Schema.Issue)
  /-- Decimal arithmetic has no result. -/
  | decimal (signal : Decimal.Signal)
  /-- An integer is beyond the binary floating point numbers. -/
  | integerTooLarge
  /-- An integer is beyond those that a column of a table holds. -/
  | integerTooLargeForColumn
  /-- A value of this kind cannot be the name of a member. -/
  | unhashable (kind : String)
  /-- A value of this kind has no entries. -/
  | notIterable (kind : String)
  /-- The entry at this position is not a pair. -/
  | entryNotPair (position : Nat)
  /-- The entry at this position has this many parts. -/
  | entryLength (position parts : Nat)
  /-- Values of these kinds have no order. -/
  | unordered (operator left right : String)
  /-- Values of these kinds cannot be combined. -/
  | unsupported (operator left right : String)
  /-- A value with items cannot be multiplied by a decimal number. -/
  | itemsTimesDecimal
  /-- A value of this kind has no part of this name. -/
  | noAttribute (kind part : String)
  /-- A value of this kind has no members that could be entered into others. -/
  | notMapping (kind : String)
  /-- A value of this kind is not a text that could be searched. -/
  | notSearchable (kind : String)
  /-- A value of this kind has no parts at positions. -/
  | notSubscriptable (kind : String)
  /-- A value that is not a whole number cannot limit a list. -/
  | notLimit
  /-- A text does not write an integer. -/
  | notIntegerText (literal : String)
  /-- A text writes an integer of this many digits, which are too many. -/
  | tooManyDigits (digits : Nat)
  /-- A value of this kind stands for no integer. -/
  | notIntegerKind (kind : String)
  /-- A number that is infinite, or not a number, is no integer. -/
  | notFinite (nan : Bool)
  /-- A function is called without an argument that it needs. -/
  | argumentMissing (function argument : String)
  /-- A function is called with an argument that it does not know. -/
  | argumentUnknown (function argument : String)
  /-- A word is not one of the members of an enumeration. -/
  | notMember (literal enumeration : String)
  /-- There is no log level of this name. -/
  | unknownLevel (name : String)
  /-- An identifier is empty. -/
  | emptyIdentifier
  /-- The text of an identifier is a value of this kind. -/
  | identifierNotText (kind : String)
  /-- An order has no fields of these names that could be written. -/
  | unknownFields (names : List String)
  /-- An order is not in the store. -/
  | orderNotFound (id : String)
  /-- The store did not take the validated mark. -/
  | notMarkedValidated
  /-- The store did not take a status. -/
  | statusNotWritten (id status : String)
  /-- The store has no place for a value. -/
  | unstorable (kind : String)
  /-- Another endpoint answers the same route. -/
  | routeTaken (route id : String)
  /-- Node kinds have no handler. -/
  | unhandledKinds (names : List String)
  /-- A workflow does not have exactly one start node. -/
  | startNodes (workflow : String) (count : Nat)
  /-- A walk has visited as many nodes as it may. -/
  | visitLimit (workflow : String) (limit : Nat) (node : String)
  /-- A node is set up with a delay that is no number. -/
  | invalidDelay (node literal : String)
  /-- A collaborator of a node produced something else than an object. -/
  | notAnObject (node nodeKind kind : String)
  /-- The description of a transform is not an object. -/
  | transformNotObject (kind : String)
  /-- A called service answered with an error. -/
  | callRefused (endpoint status body : String)
deriving Repr

namespace Failure

/-- The name of a decimal signal. -/
def signalName : Decimal.Signal → String
  | .conversionSyntax => "ConversionSyntax"
  | .invalidOperation => "InvalidOperation"
  | .overflow => "Overflow"

/-- The name of the kind of a failure. -/
def kind : Failure → String
  | .raised k _ => k.name
  | .invalid _ => "ValidationError"
  | .decimal s => if s = .overflow then "Overflow" else "InvalidOperation"
  | .integerTooLarge | .integerTooLargeForColumn => "OverflowError"
  | .notFinite nan => if nan then "ValueError" else "OverflowError"
  | .noAttribute .. => "AttributeError"
  | .unhashable _ | .notIterable _ | .entryNotPair _ | .unordered .. | .unsupported ..
  | .itemsTimesDecimal | .notMapping _ | .notSearchable _ | .notSubscriptable _ | .notLimit
  | .notIntegerKind _ | .argumentMissing .. | .argumentUnknown .. | .identifierNotText _
  | .transformNotObject _ => "TypeError"
  | .entryLength .. | .notMember .. | .unknownLevel _ | .emptyIdentifier | .unknownFields _
  | .notIntegerText _ | .tooManyDigits _ | .routeTaken .. => "ValueError"
  | .orderNotFound _ => "OrderNotFoundError"
  | .notMarkedValidated | .statusNotWritten .. => "OrderProcessingError"
  | .unstorable k => k
  | .unhandledKinds _ => "RuntimeError"
  | .startNodes .. => "MissingStartNodeError"
  | .visitLimit .. => "NodeVisitLimitExceeded"
  | .invalidDelay .. | .notAnObject .. => "WorkflowNodeError"
  | .callRefused .. => "ApiCallError"

/-- The quoted forms of some names in brackets. -/
def quotedList (names : List String) : String :=
  "[" ++ String.intercalate ", " (names.map Text.quote) ++ "]"

/-- What a report says about a failure. -/
def message : Failure → String
  | .raised .key detail => detail.literal
  | .raised _ detail => detail.plain
  | .invalid issues => toString issues.length ++ " issues"
  | .decimal s => "[<class 'decimal." ++ signalName s ++ "'>]"
  | .integerTooLarge => "int too large to convert to float"
  | .integerTooLargeForColumn => "Python int too large to convert to SQLite INTEGER"
  | .unhashable k => "unhashable type: '" ++ k ++ "'"
  | .notIterable k => "'" ++ k ++ "' object is not iterable"
  | .entryNotPair i =>
    "cannot convert dictionary update sequence element #" ++ toString i ++ " to a sequence"
  | .entryLength i n =>
    "dictionary update sequence element #" ++ toString i ++ " has length " ++ toString n ++
      "; 2 is required"
  | .unordered op a b =>
    "'" ++ op ++ "' not supported between instances of '" ++ a ++ "' and '" ++ b ++ "'"
  | .unsupported op a b =>
    "unsupported operand type(s) for " ++ op ++ ": '" ++ a ++ "' and '" ++ b ++ "'"
  | .itemsTimesDecimal => "can't multiply sequence by non-int of type 'decimal.Decimal'"
  | .noAttribute k name => "'" ++ k ++ "' object has no attribute '" ++ name ++ "'"
  | .notMapping k => "'" ++ k ++ "' object is not a mapping"
  | .notSearchable k => "expected string or bytes-like object, got '" ++ k ++ "'"
  | .notSubscriptable k => "'" ++ k ++ "' object is not subscriptable"
  | .notLimit => "slice indices must be integers or None or have an __index__ method"
  | .notIntegerText literal =>
    "invalid literal for int() with base 10: " ++ Text.truncate 200 literal
  | .tooManyDigits n =>
    "Exceeds the limit (4300 digits) for integer string conversion: value has " ++ toString n ++
      " digits; use sys.set_int_max_str_digits() to increase the limit"
  | .notIntegerKind k =>
    "int() argument must be a string, a bytes-like object or a real number, not '" ++ k ++ "'"
  | .notFinite nan =>
    "cannot convert float " ++ (if nan then "NaN" else "infinity") ++ " to integer"
  | .argumentMissing function name =>
    function ++ "() missing 1 required positional argument: '" ++ name ++ "'"
  | .argumentUnknown function name =>
    function ++ "() got an unexpected keyword argument '" ++ name ++ "'"
  | .notMember literal enumeration => literal ++ " is not a valid " ++ enumeration
  | .unknownLevel name => "Unknown level: " ++ Text.quote name
  | .emptyIdentifier => "Execution id cannot be empty"
  | .identifierNotText k => "__str__ returned non-string (type " ++ k ++ ")"
  | .unknownFields names => "Unknown order fields: " ++ quotedList names
  | .orderNotFound id => "Order " ++ id ++ " not found"
  | .notMarkedValidated => "Could not mark order as validated"
  | .statusNotWritten id status => "Could not update order " ++ id ++ " to " ++ status
  | .unstorable _ => ""
  | .routeTaken route id => "Route " ++ route ++ " already registered by " ++ id
  | .unhandledKinds names => "No handler for node types: " ++ String.intercalate ", " names
  | .startNodes workflow count =>
    if count = 0 then "Workflow " ++ workflow ++ " has no start node"
    else "Workflow " ++ workflow ++ " has " ++ toString count ++
      " start nodes, expected exactly one"
  | .visitLimit workflow limit node =>
    "Workflow " ++ workflow ++ " exceeded " ++ toString limit ++ " node visits at node " ++ node
  | .invalidDelay node literal => "Node " ++ node ++ ": invalid delay " ++ literal
  | .notAnObject node nodeKind kind =>
    "Node " ++ node ++ ": " ++ nodeKind ++ " produced " ++ kind ++ ", expected a mapping"
  | .transformNotObject kind => "transform spec must be a mapping, got " ++ kind
  | .callRefused endpoint status body =>
    "API call to " ++ endpoint ++ " failed with status " ++ status ++ ": " ++ body

/-- The result of a check, with the issues of a refused document as a failure. -/
def ofChecked {α : Type} : Schema.Checked α → Except Failure α
  | .accepted a => .ok a
  | .refused issues => .error (.invalid issues)

/-- The message of a failure, or its kind where the message is empty. -/
def report (f : Failure) : String := if f.message = "" then f.kind else f.message

variable {α β : Type}

/-- Two operations in a row have a result if both of them have. -/
theorem bind_eq_ok_iff {x : Except Failure α} {f : α → Except Failure β} {b : β} :
    x >>= f = .ok b ↔ ∃ a, x = .ok a ∧ f a = .ok b := by
  cases x with
  | error e => simp [bind, Except.bind]
  | ok a => simp [bind, Except.bind]

theorem map_eq_ok_iff {x : Except Failure α} {f : α → β} {b : β} :
    x.map f = .ok b ↔ ∃ a, x = .ok a ∧ f a = b := by
  cases x <;> simp [Except.map]

/-- A check of all items of a list passes if it passes for each of them. -/
theorem forM_eq_ok {f : α → Except Failure Unit} {as : List α}
    (h : ∀ a ∈ as, f a = .ok ()) : as.forM f = .ok () := by
  induction as with
  | nil => rfl
  | cons a as ih =>
    have rest := ih fun b mem => h b (List.mem_cons_of_mem a mem)
    exact bind_eq_ok_iff.mpr ⟨(), h a List.mem_cons_self, rest⟩

/-- An operation on all items of a list has a result on each of them. -/
theorem mapM_eq_ok {f : α → Except Failure β} {as : List α} {bs : List β}
    (h : as.mapM f = .ok bs) : ∀ a ∈ as, ∃ b ∈ bs, f a = .ok b := by
  induction as generalizing bs with
  | nil => simp
  | cons a as ih =>
    rw [List.mapM_cons] at h
    obtain ⟨b, first, rest⟩ := bind_eq_ok_iff.mp h
    obtain ⟨bs', others, whole⟩ := bind_eq_ok_iff.mp rest
    cases whole
    intro a' mem
    rcases List.mem_cons.mp mem with rfl | mem
    · exact ⟨b, List.mem_cons_self, first⟩
    · obtain ⟨b', mem', same⟩ := ih others a' mem
      exact ⟨b', List.mem_cons_of_mem b mem', same⟩

theorem mapM_eq_map {f : α → Except Failure β} {g : α → β} {as : List α}
    (h : ∀ a ∈ as, f a = .ok (g a)) : as.mapM f = .ok (as.map g) := by
  induction as with
  | nil => rfl
  | cons a as ih =>
    rw [List.mapM_cons, h a List.mem_cons_self, ih fun b mem => h b (List.mem_cons_of_mem a mem)]
    rfl

end Failure

end Fulfilment
