import Fulfilment.Execution.Record
import Fulfilment.Execution.Write
import Fulfilment.Intake.Endpoint
import Fulfilment.Intake.Form
import Fulfilment.Program

/-!
# Calls of the workflow engine

What a visited node calls on - actions, services, transformers, senders and a clock - and what the
engine calls on besides: the registry, the archive of records, and the event bus. Each may fail.
All but the clock are handed the context itself and may write on it, also before they fail; what
else they are handed is for reading. Identifiers are texts, unless they are mistaken.

## Main definitions

* `NodeCall`, `NodeCall.Reply` - the calls of a visited node, and what is replied
* `ContextReply`, `Produced` - a reply with writes on the context, and what may be produced
* `EngineCall`, `EngineCall.Reply` - the calls of the engine, and what is replied
* `NodeProgram.inEngine` - the program of a node as a program of the engine
-/

namespace Fulfilment

/-- A call of a visited node. -/
inductive NodeCall where
  /-- Runs the action of a name. -/
  | act (name : String) (params : Value.Fields) (context : Context)
  /-- Calls the service at an endpoint, with the options of the node. -/
  | service (endpoint : Value) (context : Context) (options : Value.Fields)
  /-- Transforms the context by a description. -/
  | transform (spec : Value) (context : Context)
  /-- Sends a message over a channel, with the options of the node. -/
  | send (channel : String) (options : Value.Fields) (context : Context)
  /-- Rests for some seconds. -/
  | rest (seconds : Binary64)
deriving Repr

/-- What a collaborator replies that is handed the context: what it has written on the context by
itself, and then its result, or its failure. -/
structure ContextReply (α : Type) where
  /-- The writes, which stay when the collaborator fails after them. -/
  writes : List Write := []
  /-- The result. -/
  result : Except Failure α
deriving Inhabited

/-- What services and transforms produce. -/
inductive Produced where
  /-- A value that can be read to its end. -/
  | whole (v : Value)
  /-- An object that fails when it is read, after some of its members. -/
  | broken (fs : Value.Fields) (f : Failure)
deriving Repr, Inhabited

/-- What is replied to a call of a visited node. Only a rest is not handed the context. -/
abbrev NodeCall.Reply : NodeCall → Type
  | .act .. => ContextReply Unit
  | .service .. => ContextReply Produced
  | .transform .. => ContextReply Produced
  | .send .. => ContextReply Bool
  | .rest _ => Except Failure Unit

/-- A program of a visited node. -/
abbrev NodeProgram := Program NodeCall NodeCall.Reply

/-- A call of the workflow engine. -/
inductive EngineCall where
  /-- Looks a workflow up. -/
  | workflow (id : Value)
  /-- Looks a form up. -/
  | form (id : Value)
  /-- Looks an endpoint up. -/
  | endpoint (id : Value)
  /-- Issues a new identifier for a thing of a kind. -/
  | issue (kind : String)
  /-- Calls on the collaborators of nodes. -/
  | node (c : NodeCall)
  /-- Keeps the record of an execution. -/
  | keep (r : ExecutionRecord)
  /-- Publishes an event. -/
  | publish (e : Event)
deriving Repr

/-- What is replied to a call of the workflow engine. -/
abbrev EngineCall.Reply : EngineCall → Type
  | .workflow _ => Except Failure (Option Workflow)
  | .form _ => Except Failure (Option Form)
  | .endpoint _ => Except Failure (Option Endpoint)
  | .issue _ => String
  | .node c => c.Reply
  | .keep _ => Except Failure Unit
  | .publish _ => Except Failure Unit

/-- A program of the workflow engine. -/
abbrev EngineProgram := Program EngineCall EngineCall.Reply

/-- The program of a node, in the engine. -/
def NodeProgram.inEngine {α : Type} : NodeProgram α → EngineProgram α
  | .done a => .done a
  | .call c next => .call (.node c) fun r => inEngine (next r)

@[simp] theorem NodeProgram.inEngine_done {α : Type} (a : α) :
    NodeProgram.inEngine (.done a) = .done a := rfl

end Fulfilment
