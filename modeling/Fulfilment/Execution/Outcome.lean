import Fulfilment.Document.Value

/-!
# Outcomes of executions

An execution of a workflow is complete when it reaches an end node. When it runs out of nodes
before that, it is truncated, which is no failure.

## Main definitions

* `Outcome` - how and where a walk stopped
* `ExecutionStatus` - whether an execution failed
-/

namespace Fulfilment

/-- How a walk stopped. -/
inductive OutcomeKind where
  /-- It reached an end node. -/
  | completed
  /-- It ran out of nodes. -/
  | truncated
deriving DecidableEq, Repr, Inhabited

namespace OutcomeKind

/-- The word for a kind. -/
def word : OutcomeKind → String
  | completed => "completed"
  | truncated => "truncated"

/-- The words for the kinds. -/
def words : List (String × OutcomeKind) := [completed, truncated].map fun k => (k.word, k)

end OutcomeKind

/-- How and where a walk stopped. -/
structure Outcome where
  /-- How the walk stopped. -/
  kind : OutcomeKind
  /-- The node at which the walk stopped. -/
  node : String
  /-- The node that was to come next and is not there. -/
  missingTarget : Option String := none
deriving DecidableEq, Repr, Inhabited

namespace Outcome

/-- The walk that reached an end node. -/
def completed (node : String) : Outcome := ⟨.completed, node, none⟩

/-- The walk that ran out of nodes. -/
def truncated (node : String) (missingTarget : Option String) : Outcome :=
  ⟨.truncated, node, missingTarget⟩

/-- The outcome as a document. -/
def document (o : Outcome) : Value :=
  .object [("kind", .text o.kind.word), ("node_id", .text o.node),
    ("missing_target", .ofText? o.missingTarget)]

end Outcome

/-- Whether an execution failed. -/
inductive ExecutionStatus where
  /-- It did not fail. -/
  | completed
  /-- It failed. -/
  | failed
deriving DecidableEq, Repr, Inhabited

namespace ExecutionStatus

/-- The word for a status. -/
def word : ExecutionStatus → String
  | completed => "completed"
  | failed => "failed"

/-- The words for the statuses. -/
def words : List (String × ExecutionStatus) := [completed, failed].map fun s => (s.word, s)

end ExecutionStatus

end Fulfilment
