import Fulfilment.Workflow.Definition

/-!
# Forms

A form is known by what happens when it is submitted: a service is called, a workflow is started,
or neither.

## Main definitions

* `SubmitAction` - what happens when a form is submitted
* `Form` - a form
* `Form.check`, `Form.document` - reading a form from a document and writing it
-/

namespace Fulfilment

/-- The ways to treat a submission. -/
inductive SubmitKind where
  /-- A service is called. -/
  | api
  /-- A workflow is started. -/
  | workflow
  /-- Something else happens elsewhere. -/
  | custom
deriving DecidableEq, Repr, Inhabited

/-- The words for the ways to treat a submission, in their order. -/
def SubmitKind.words : List (String × SubmitKind) :=
  [("api", api), ("workflow", workflow), ("custom", custom)]

/-- The word for a way to treat a submission. -/
def SubmitKind.word : SubmitKind → String
  | api => "api"
  | workflow => "workflow"
  | custom => "custom"

/-- What happens when a form is submitted. -/
structure SubmitAction where
  /-- How the submission is treated. -/
  kind : SubmitKind
  /-- The service to call. -/
  endpoint : Option String
  /-- The method of the call. -/
  method : Option String
  /-- The workflow to start. -/
  workflowId : Option String
deriving Repr, Inhabited, DecidableEq

namespace SubmitAction

/-- The methods that a submission may use. -/
def methods : List (String × String) := [("POST", "POST"), ("PUT", "PUT"), ("PATCH", "PATCH")]

/-- The submit action that the members of an object describe. -/
def ofFields (fs : Value.Fields) : Schema.Checked SubmitAction :=
  SubmitAction.mk <$> Schema.required fs "type" (Schema.choice SubmitKind.words)
    <*> Schema.perhaps fs "endpoint" Schema.text
    <*> Schema.perhaps fs "method" (Schema.choice methods)
    <*> Schema.perhaps fs ⟨"workflowId", "workflow_id"⟩ Schema.text

/-- The submit action that a value describes. -/
def check : Value → Schema.Checked SubmitAction := Schema.model "FormSubmitAction" ofFields

/-- The submit action as a document. -/
def document (a : SubmitAction) : Value :=
  .object [("type", .text a.kind.word), ("endpoint", .ofText? a.endpoint),
    ("method", .ofText? a.method), ("workflow_id", .ofText? a.workflowId)]

end SubmitAction

/-- A form. -/
structure Form where
  /-- The name under which the form is registered. -/
  id : String
  /-- What the form is called. -/
  name : String
  /-- What the form is for. -/
  description : Option String
  /-- What happens when the form is submitted. -/
  submitAction : Option SubmitAction
  /-- When the form was registered first. -/
  createdAt : Option Timestamp
  /-- When the form was registered last. -/
  updatedAt : Option Timestamp
deriving Repr, Inhabited

namespace Form

/-- The form that the members of an object describe. -/
def ofFields (fs : Value.Fields) : Schema.Checked Form :=
  Form.mk <$> Schema.optional fs "id" "" Schema.text
    <*> Schema.required fs "name" Schema.text
    <*> Schema.perhaps fs "description" Schema.text
    <*> Schema.perhaps fs ⟨"submitAction", "submit_action"⟩ SubmitAction.check
    <*> Schema.perhaps fs "created_at" Schema.timestamp
    <*> Schema.perhaps fs "updated_at" Schema.timestamp

/-- The form that a value describes. -/
def check : Value → Schema.Checked Form := Schema.model "FormDefinition" ofFields

/-- The form as a document. -/
def document (f : Form) : Value :=
  .object [("id", .text f.id), ("name", .text f.name), ("description", .ofText? f.description),
    ("submit_action", (f.submitAction.map SubmitAction.document).getD .null),
    ("created_at", .ofTimestamp? f.createdAt), ("updated_at", .ofTimestamp? f.updatedAt)]

end Form

end Fulfilment
