import Fulfilment.Order.Record
import Fulfilment.Program

/-!
# Pipelines

Processing an order is a list of named steps. A required step that fails ends the pipeline with its
failure; when a step fails that is done on a best effort, the failure becomes a warning and the
next step follows.

## Main definitions

* `StepKind` - what the failure of a step means
* `Run` - what an order has gathered on its way
* `Step` - a named step
* `Pipeline.run` - the steps, one after the other

## Main results

* `Pipeline.run_append` - a pipeline in two parts
-/

namespace Fulfilment

/-- What the failure of a step means. -/
inductive StepKind where
  /-- The pipeline ends. -/
  | required
  /-- The pipeline goes on with a warning. -/
  | bestEffort
deriving DecidableEq, Repr, Inhabited

namespace StepKind

/-- The word for a kind. -/
def word : StepKind → String
  | required => "required"
  | bestEffort => "best_effort"

/-- The words for the kinds. -/
def words : List (String × StepKind) := [required, bestEffort].map fun k => (k.word, k)

end StepKind

/-- What an order has gathered on its way through a pipeline. -/
structure Run where
  /-- The order as it was loaded, with the ledger mark of the run. -/
  order : Order
  /-- The receipt, once there is one. -/
  receipt : Option String := none
  /-- What is worth noting. -/
  warnings : List String := []
  /-- The names of the steps that did not fail. -/
  completed : List String := []
deriving Repr, Inhabited

/-- The run with a further warning. -/
def Run.warn (r : Run) (warning : String) : Run := { r with warnings := r.warnings ++ [warning] }

/-- What a step leaves behind: the run, and the failure of the step if it failed. -/
abbrev StepResult := Run × Option Failure

/-- A named step. -/
structure Step (Call : Type) (Reply : Call → Type) where
  /-- The name of the step. -/
  name : String
  /-- What the failure of the step means. -/
  kind : StepKind
  /-- What the step does. -/
  action : Run → Program Call Reply StepResult

namespace Pipeline

variable {Call : Type} {Reply : Call → Type}

/-- What the run is after a step, and the failure if it ends the pipeline. -/
def settle (s : Step Call Reply) : StepResult → StepResult
  | (r, none) => ({ r with completed := r.completed ++ [s.name] }, none)
  | (r, some f) =>
    match s.kind with
    -- What the step has gathered before it failed stays with the run.
    | .required => (r, some f)
    | .bestEffort => (r.warn (s.name ++ ": " ++ f.message), none)

/-- Takes the steps in order, up to the first required one that fails. -/
def run : List (Step Call Reply) → Run → Program Call Reply StepResult
  | [], r => .done (r, none)
  | s :: ss, r =>
    (s.action r).bind fun result =>
      match settle s result with
      | (r, none) => run ss r
      | (r, some f) => .done (r, some f)

@[simp] theorem run_nil (r : Run) : run ([] : List (Step Call Reply)) r = .done (r, none) := rfl

theorem run_cons (s : Step Call Reply) (ss : List (Step Call Reply)) (r : Run) :
    run (s :: ss) r = (s.action r).bind fun result =>
      match settle s result with
      | (r, none) => run ss r
      | (r, some f) => .done (r, some f) := rfl

/-- The steps of the second part are taken when the first part has not failed. -/
theorem run_append (ss ts : List (Step Call Reply)) (r : Run) :
    run (ss ++ ts) r = (run ss r).bind fun result =>
      match result with
      | (r, none) => run ts r
      | (r, some f) => .done (r, some f) := by
  induction ss generalizing r with
  | nil => simp
  | cons s ss ih =>
    simp only [List.cons_append, run_cons, Program.bind_assoc]
    congr 1
    funext result
    cases settle s result with
    | mk r f =>
      cases f with
      | none => exact ih r
      | some f => rfl

end Pipeline

end Fulfilment
