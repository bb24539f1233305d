import Fulfilment.Document.Entries

/-!
# Conditions

A condition compares the value of one field of a context with a given value. Comparisons by size
read both sides as numbers, and the search for a text reads both sides as texts; what cannot be
read as a number is not a number, and compares as neither smaller nor larger.

A value that does not have the form of a condition, and an operator that is not known, hold always.

## Main definitions

* `Condition` - a field, an operator and a value
* `Condition.numberOf`, `Condition.textOf` - the sides of a comparison as number and as text
* `Condition.holds` - evaluation in a context
-/

namespace Fulfilment

/-- The named values of a workflow while it runs. -/
abbrev Context := Value.Fields

namespace Condition

/-- What a condition asks of a field. -/
inductive Operator where
  /-- The field is there and has the value. -/
  | equals
  /-- The field is absent or has another value. -/
  | notEquals
  /-- The field is larger than the value. -/
  | greaterThan
  /-- The field is smaller than the value. -/
  | lessThan
  /-- The field as a text contains the value as a text. -/
  | contains
deriving DecidableEq, Repr

/-- The words for the operators. -/
def Operator.words : List (String × Operator) :=
  [("equals", equals), ("notEquals", notEquals), ("greaterThan", greaterThan),
    ("lessThan", lessThan), ("contains", contains)]

/-- The operator that a value names. -/
def Operator.ofValue? (v : Value) : Option Operator :=
  v.text?.bind (Catalog.get? words)

/-- The side of a comparison as a number. Truth values count as one and zero, a blank text as zero,
and whatever writes no number is not a number. -/
def numberOf : Option Value → Except Failure Binary64
  | some (.bool b) => .ok (.ofInt (if b then 1 else 0))
  | some (.int n) =>
    match Binary64.ofInt? n with
    | some x => .ok x
    | none => .error .integerTooLarge
  | some (.real x) => .ok x
  | some (.text s) =>
    let t := Text.trim s
    .ok (if t = "" then .zero else (Binary64.ofText? t).getD .nan)
  | _ => .ok .nan

/-- The side of a comparison as a text. What is absent or null is empty. -/
def textOf : Option Value → String
  | none | some .null => ""
  | some (.bool b) => if b then "true" else "false"
  | some v => v.plain

/-- The value of the field that a value names. Null names no field; a list or an object cannot be
the name of a field. -/
def fieldOf (field : Value) (context : Context) : Except Failure (Option Value) :=
  match field with
  | .null => .ok none
  | v => v.asName.map context.get?

/-- Whether a field compares with a value as the operator asks. -/
def compare (op : Operator) (actual : Option Value) (expected : Value) : Except Failure Bool :=
  match op with
  | .equals => .ok (actual.any fun v => v.same expected)
  | .notEquals => .ok (actual.all fun v => !v.same expected)
  | .greaterThan => do
    let x ← numberOf actual
    let y ← numberOf (some expected)
    return y.lt x
  | .lessThan => do
    let x ← numberOf actual
    let y ← numberOf (some expected)
    return x.lt y
  | .contains => .ok (Text.contains (textOf actual) (textOf (some expected)))

end Condition

/-- A condition on one field. -/
structure Condition where
  /-- The name of the field. -/
  field : Value
  /-- The word for the operator. -/
  operator : Value
  /-- The value that the field is compared with. -/
  expected : Value
deriving Repr

namespace Condition

/-- The condition that the members of an object describe. -/
def ofFields (fs : Value.Fields) : Condition :=
  { field := (fs.get? "field").getD .null
    operator := (fs.get? "operator").getD .null
    expected := (fs.get? "value").getD .null }

/-- Evaluates a condition. -/
def eval (c : Condition) (context : Context) : Except Failure Bool := do
  let actual ← fieldOf c.field context
  match Operator.ofValue? c.operator with
  | some op => compare op actual c.expected
  | none => return true

/-- Whether the condition that a value describes holds in a context. -/
def holds (v : Value) (context : Context) : Except Failure Bool :=
  match v with
  | .object [] => .ok true
  | .object fs => (ofFields fs).eval context
  | _ => .ok true

theorem holds_of_not_truthy {v : Value} (h : v.truthy = false) (context : Context) :
    holds v context = .ok true := by
  cases v with
  | object fs => cases fs <;> simp_all [holds, Value.truthy]
  | _ => rfl

end Condition

end Fulfilment
