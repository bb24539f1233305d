import Fulfilment.Execution.Outcome
import Fulfilment.Failure
import Fulfilment.Workflow.Condition
import Fulfilment.Workflow.Definition

/-!
# Reports of an execution

An execution is reported three times: in the record that is kept of it, in the events that are
published about it, and in the result that its starter gets.

## Main definitions

* `Conclusion` - what an execution has come to
* `ExecutionRecord` - what is kept of an execution
* `Event` - what is published about an execution
* `ExecutionResult` - what the starter of an execution gets
-/

namespace Fulfilment

/-- What an execution has come to. -/
inductive Conclusion where
  /-- The walk stopped. -/
  | stopped (outcome : Outcome)
  /-- A failure ended the walk. -/
  | failed (message : String)
deriving DecidableEq, Repr, Inhabited

namespace Conclusion

/-- The conclusion of a walk. -/
def ofResult : Except Failure Outcome → Conclusion
  | .ok outcome => stopped outcome
  | .error f => failed f.message

/-- Whether the execution failed. -/
def status : Conclusion → ExecutionStatus
  | stopped _ => .completed
  | failed _ => .failed

/-- How the walk stopped. -/
def outcome? : Conclusion → Option Outcome
  | stopped outcome => some outcome
  | failed _ => none

/-- The message of the failure. -/
def message? : Conclusion → Option String
  | stopped _ => none
  | failed message => some message

/-- How the walk stopped, as a document. -/
def outcomeDocument (c : Conclusion) : Value := (c.outcome?.map Outcome.document).getD .null

end Conclusion

/-- What is kept of an execution. -/
structure ExecutionRecord where
  /-- The identifier of the execution. -/
  execution : String
  /-- What the workflow was asked for by. -/
  workflow : Value
  /-- The context when the walk ended. -/
  context : Context
  /-- When the walk ended. -/
  executedAt : Timestamp
  /-- What the execution came to. -/
  conclusion : Conclusion
deriving Repr, Inhabited

/-- The record as a document. -/
def ExecutionRecord.document (r : ExecutionRecord) : Value :=
  .object [("execution_id", .text r.execution), ("workflow_id", r.workflow),
    ("status", .text r.conclusion.status.word), ("context", .object r.context),
    ("executed_at", .timestamp r.executedAt), ("error", .ofText? r.conclusion.message?),
    ("outcome", r.conclusion.outcomeDocument)]

/-- What happens in an execution. -/
inductive Happening where
  /-- The execution of a workflow with so many nodes begins. -/
  | started (nodes : Nat)
  /-- A node was visited, and the walk would go on at another. -/
  | visited (node : String) (kind : NodeKind) (next : Option String)
  /-- The execution is over. -/
  | finished (conclusion : Conclusion)
deriving DecidableEq, Repr, Inhabited

namespace Happening

/-- The name of the events that tell of a happening. -/
def name : Happening → String
  | started _ => "workflow.started"
  | visited .. => "workflow.node.executed"
  | finished _ => "workflow.finished"

/-- What the events tell of a happening. -/
def payload : Happening → Value.Fields
  | started nodes => [("node_count", .int nodes)]
  | visited node kind next =>
    [("node_id", .text node), ("node_type", .text kind.word), ("next", .ofText? next)]
  | finished (.stopped outcome) =>
    [("status", .text ExecutionStatus.completed.word), ("outcome", .text outcome.kind.word),
      ("node_id", .text outcome.node)]
  | finished (.failed message) =>
    [("status", .text ExecutionStatus.failed.word), ("error", .text message)]

end Happening

/-- What is published about an execution. -/
structure Event where
  /-- The identifier of the execution. -/
  execution : String
  /-- The workflow that is executed: what it was asked for by at the beginning and the end, its own
  identifier at its nodes. -/
  workflow : Value
  /-- When the event was published. -/
  time : Timestamp
  /-- What happened. -/
  happening : Happening
deriving Repr, Inhabited

/-- The name of an event. -/
def Event.name (e : Event) : String := e.happening.name

/-- The event as a document. -/
def Event.document (e : Event) : Value :=
  .list [.text e.name, .text e.execution, e.workflow, .timestamp e.time,
    .object e.happening.payload]

/-- What the starter of an execution gets. -/
inductive ExecutionResult where
  /-- Nothing was executed. -/
  | refused (message : String)
  /-- The execution failed. -/
  | failed (execution : String) (message : String)
  /-- The walk stopped, and left a context behind. -/
  | stopped (execution : String) (context : Context) (outcome : Outcome)
deriving Repr, Inhabited

namespace ExecutionResult

/-- The result of an execution that has come to a conclusion. -/
def ofConclusion (execution : String) (context : Context) : Conclusion → ExecutionResult
  | .stopped outcome => stopped execution context outcome
  | .failed message => failed execution message

/-- Whether the execution succeeded. -/
def success : ExecutionResult → Bool
  | stopped .. => true
  | _ => false

/-- The identifier of the execution, which is empty when nothing was executed. -/
def execution : ExecutionResult → String
  | refused _ => ""
  | failed execution _ => execution
  | stopped execution _ _ => execution

/-- The message of the failure. -/
def message? : ExecutionResult → Option String
  | refused message => some message
  | failed _ message => some message
  | stopped .. => none

/-- The context that the execution left behind. -/
def context? : ExecutionResult → Option Context
  | stopped _ context _ => some context
  | _ => none

/-- How the walk stopped. -/
def outcome? : ExecutionResult → Option Outcome
  | stopped _ _ outcome => some outcome
  | _ => none

/-- The result as a document. -/
def document (r : ExecutionResult) : Value :=
  .object [("success", .bool r.success), ("execution_id", .text r.execution),
    ("result", (r.context?.map .object).getD .null), ("error", .ofText? r.message?),
    ("outcome", (r.outcome?.map Outcome.document).getD .null)]

@[simp] theorem success_ofConclusion (execution : String) (context : Context) (c : Conclusion) :
    (ofConclusion execution context c).success = c.outcome?.isSome := by
  cases c <;> rfl

@[simp] theorem execution_ofConclusion (execution : String) (context : Context) (c : Conclusion) :
    (ofConclusion execution context c).execution = execution := by
  cases c <;> rfl

end ExecutionResult

/-- The records of executions, in the order in which they were kept first. -/
abbrev Archive := Catalog String ExecutionRecord

namespace Archive

/-- Keeps a record under the identifier of its execution. -/
def keep (a : Archive) (r : ExecutionRecord) : Archive := a.put r.execution r

/-- The record of an execution. -/
def find? (a : Archive) (execution : String) : Option ExecutionRecord := Catalog.get? a execution

/-- The records of the executions of a workflow. -/
def ofWorkflow (a : Archive) (workflow : String) : List ExecutionRecord :=
  (Catalog.entries a).filter (·.workflow.text? = some workflow)

theorem find?_keep (a : Archive) (r : ExecutionRecord) (execution : String) :
    (a.keep r).find? execution = if r.execution = execution then some r else a.find? execution := by
  simp [keep, find?, Catalog.get?_put]

end Archive

end Fulfilment
