import Fulfilment.Document.Entries
import Fulfilment.Execution.Visit

/-!
# Executing a workflow

An execution walks from node to node, beginning at the start node, until a node completes it, there
is no next node, or something fails. The number of visits is limited, because the nodes may form a
cycle. Every visit is published, and the end is recorded and published; that these reports can fail
is of no concern to the execution.

## Main definitions

* `Workflow.walk` - the walk from a node, with a number of visits left
* `Workflow.traverse` - the walk from the start node
* `Workflow.execute` - an execution with its reports
* `execute` - the execution of a registered workflow

## Main results

* `Workflow.traverse_of_starts_ne` - without exactly one start node nothing is visited
-/

namespace Fulfilment

/-- What a walk leaves behind: the context, and how it stopped unless it failed. -/
abbrev WalkEnd := Context × Except Failure Outcome

/-- Publishes what happens in an execution. -/
def announce (now : Timestamp) (workflow : Value) (execution : String) (h : Happening) :
    EngineProgram Unit :=
  .call (.publish ⟨execution, workflow, now, h⟩) fun _ => .done ()

namespace Workflow

/-- Where a walk stands after a node: it stops there, or goes on at another node. -/
def successor (w : Workflow) (n : Node) : Next → Outcome ⊕ Node
  | .complete => .inl (.completed n.id)
  | .goOn none => .inl (.truncated n.id none)
  | .goOn (some target) =>
    match w.find? target with
    | none => .inl (.truncated n.id (some target))
    | some next => .inr next

/-- Walks from a node, with a number of visits left. -/
def walk (now : Timestamp) (settings : WorkflowSettings) (w : Workflow) (execution : String) :
    Nat → Node → Context → EngineProgram WalkEnd
  | 0, n, context => .done (context, .error (.visitLimit w.id settings.maxVisits n.id))
  | visits + 1, n, context =>
    (n.visit settings context).inEngine.bind fun visit =>
      match visit.next with
      -- A visit that failed is not announced, but what it has written stays.
      | .error f => .done (context.afterAll visit.writes, .error f)
      | .ok next =>
        (announce now (.text w.id) execution (.visited n.id n.kind next.target?)).bind fun _ =>
          match w.successor n next with
          | .inl outcome => .done (context.afterAll visit.writes, .ok outcome)
          | .inr m => walk now settings w execution visits m (context.afterAll visit.writes)

/-- Walks from the start node, which has to be the only one. -/
def traverse (now : Timestamp) (settings : WorkflowSettings) (w : Workflow) (execution : String)
    (context : Context) : EngineProgram WalkEnd :=
  match w.starts with
  | [start] => w.walk now settings execution settings.maxVisits start context
  | starts => .done (context, .error (.startNodes w.id starts.length))

/-- Records and publishes the end of an execution, and reports it to the starter. -/
def conclude (now : Timestamp) (asked : Value) (execution : String) (reached : WalkEnd) :
    EngineProgram ExecutionResult :=
  let c := Conclusion.ofResult reached.2
  -- The record is kept before the end is announced, and neither has to succeed.
  .call (.keep ⟨execution, asked, reached.1, now, c⟩) fun _ =>
    (announce now asked execution (.finished c)).map fun _ =>
      .ofConclusion execution reached.1 c

/-- Executes a workflow, under an identifier. Its beginning and its end are told of what it was
asked for by, which a registry need not have it under. The given values overlay those of the
workflow. -/
def execute (now : Timestamp) (settings : WorkflowSettings) (w : Workflow) (asked : Value)
    (execution : String) (given : Context) : EngineProgram ExecutionResult :=
  (announce now asked execution (.started w.nodes.length)).bind fun _ =>
    (w.traverse now settings execution (w.presets.overlay given)).bind
      (conclude now asked execution)

theorem traverse_of_starts_ne (now : Timestamp) (settings : WorkflowSettings) (w : Workflow)
    (execution : String) (context : Context) (h : w.starts.length ≠ 1) :
    w.traverse now settings execution context =
      .done (context, .error (.startNodes w.id w.starts.length)) := by
  unfold traverse
  split
  · simp_all
  · rfl

end Workflow

/-- Executes a registered workflow. When it is not registered or the registry cannot be read,
nothing is executed; an input that stands for no members is a failure. -/
def execute (now : Timestamp) (settings : WorkflowSettings) (id input : Value) :
    EngineProgram (Except Failure ExecutionResult) :=
  .call (.workflow id) fun
  | .error f => .done (.ok (.refused f.message))
  | .ok none => .done (.ok (.refused "Workflow not found"))
  | .ok (some w) =>
    -- The identifier is issued before the input is read, so that a bad input uses one up.
    .call (.issue "exec") fun execution =>
      match input.membersOrNone with
      | .error f => .done (.error f)
      | .ok given => (w.execute now settings id execution given).map .ok

end Fulfilment
