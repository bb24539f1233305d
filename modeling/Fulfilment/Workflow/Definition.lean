import Fulfilment.Workflow.Node

/-!
# Workflow definitions

A workflow is a list of nodes with the values that its context starts from. Nodes are found by
their names; of several nodes with one name only the first is found.

## Main definitions

* `WorkflowTrigger` - how a workflow is meant to be started
* `Workflow` - a workflow
* `Workflow.starts`, `Workflow.find?` - its start nodes, and its nodes by name
* `Workflow.check`, `Workflow.document` - reading a workflow from a document and writing it
-/

namespace Fulfilment

/-- The occasions on which a workflow is meant to be started. -/
inductive Occasion where
  /-- Somebody starts it. -/
  | manual
  /-- A request starts it. -/
  | api
  /-- A clock starts it. -/
  | schedule
  /-- An event starts it. -/
  | event
deriving DecidableEq, Repr, Inhabited

/-- The words for the occasions, in their order. -/
def Occasion.words : List (String × Occasion) :=
  [("manual", manual), ("api", api), ("schedule", schedule), ("event", event)]

/-- The word for an occasion. -/
def Occasion.word : Occasion → String
  | manual => "manual"
  | api => "api"
  | schedule => "schedule"
  | event => "event"

/-- How a workflow is meant to be started. -/
structure WorkflowTrigger where
  /-- The occasion. -/
  occasion : Occasion
  /-- The options of the occasion. -/
  config : Value.Fields
deriving Repr, Inhabited

namespace WorkflowTrigger

/-- The trigger that the members of an object describe. -/
def ofFields (fs : Value.Fields) : Schema.Checked WorkflowTrigger :=
  WorkflowTrigger.mk <$> Schema.optional fs "type" .manual (Schema.choice Occasion.words)
    <*> Schema.optional fs "config" [] Schema.object

/-- The trigger that a value describes. -/
def check : Value → Schema.Checked WorkflowTrigger := Schema.model "WorkflowTrigger" ofFields

/-- The trigger as a document. -/
def document (t : WorkflowTrigger) : Value :=
  .object [("type", .text t.occasion.word), ("config", .object t.config)]

end WorkflowTrigger

/-- A workflow. -/
structure Workflow where
  /-- The name under which the workflow is registered. -/
  id : String
  /-- What the workflow is called. -/
  name : String
  /-- What the workflow is for. -/
  description : Option String
  /-- The nodes. -/
  nodes : List Node
  /-- The values that the context starts from. -/
  presets : Value.Fields
  /-- How the workflow is meant to be started. -/
  trigger : Option WorkflowTrigger
  /-- When the workflow was registered first. -/
  createdAt : Option Timestamp
  /-- When the workflow was registered last. -/
  updatedAt : Option Timestamp
deriving Repr, Inhabited

namespace Workflow

/-- The start nodes. -/
def starts (w : Workflow) : List Node := w.nodes.filter (·.kind = .start)

/-- The first node of a name. -/
def find? (w : Workflow) (id : String) : Option Node := w.nodes.find? (·.id = id)

/-- The nodes that can be found by their names, in order. -/
def index (w : Workflow) : List Node :=
  w.nodes.foldl (fun found n => if found.any (·.id = n.id) then found else found ++ [n]) []

/-- The workflow that the members of an object describe. -/
def ofFields (fs : Value.Fields) : Schema.Checked Workflow :=
  Workflow.mk <$> Schema.optional fs "id" "" Schema.text
    <*> Schema.required fs "name" Schema.text
    <*> Schema.perhaps fs "description" Schema.text
    <*> Schema.optional fs "nodes" [] (Schema.listOf Node.check)
    <*> Schema.optional fs "variables" [] Schema.object
    <*> Schema.perhaps fs "trigger" WorkflowTrigger.check
    <*> Schema.perhaps fs "created_at" Schema.timestamp
    <*> Schema.perhaps fs "updated_at" Schema.timestamp

/-- The workflow that a value describes. -/
def check : Value → Schema.Checked Workflow := Schema.model "WorkflowDefinition" ofFields

/-- The members of the workflow as a document. -/
def toFields (w : Workflow) : Value.Fields :=
  [("id", .text w.id), ("name", .text w.name), ("description", .ofText? w.description),
    ("nodes", .list (w.nodes.map Node.document)), ("variables", .object w.presets),
    ("trigger", (w.trigger.map WorkflowTrigger.document).getD .null),
    ("created_at", .ofTimestamp? w.createdAt), ("updated_at", .ofTimestamp? w.updatedAt)]

/-- The workflow as a document. -/
def document (w : Workflow) : Value := .object w.toFields

end Workflow

end Fulfilment
