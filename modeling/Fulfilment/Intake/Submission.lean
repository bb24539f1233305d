import Fulfilment.Execution.Walk

/-!
# Submitting forms

A submission to a form starts the workflow of its submit action, if it has one, on the submitted
values.

## Main definitions

* `Submission` - what a submission has come to
* `submit` - a submission
-/

namespace Fulfilment

/-- What a submission has come to. -/
structure Submission where
  /-- Whether it succeeded. -/
  success : Bool
  /-- What to tell the one who submitted. -/
  message : String
  /-- The values that came of it. -/
  data : Value.Fields := []
  /-- The execution that it started. -/
  execution : Option ExecutionResult := none
deriving Repr, Inhabited

namespace Submission

/-- The message of a submission that succeeded. -/
def accepted : String := "Form submitted successfully"

/-- The submission that started an execution. -/
def ofExecution (r : ExecutionResult) : Submission where
  success := r.success
  message := match r.message? with
    | none => accepted
    | some message => "Form workflow failed: " ++ message
  data := r.context?.getD []
  execution := some r

/-- The submission as a document. -/
def document (s : Submission) : Value :=
  .object [("success", .bool s.success), ("message", .text s.message), ("data", .object s.data),
    ("execution", (s.execution.map ExecutionResult.document).getD .null)]

@[simp] theorem success_ofExecution (r : ExecutionResult) :
    (ofExecution r).success = r.success := rfl

end Submission

/-- The workflow that a submission to a form starts. -/
def Form.startedWorkflow? (f : Form) : Option String :=
  match f.submitAction with
  | some { kind := .workflow, workflowId := some id, .. } => if id = "" then none else some id
  | _ => none

/-- Submits data to a form. -/
def submit (now : Timestamp) (settings : WorkflowSettings) (id data : Value) :
    EngineProgram (Except Failure Submission) :=
  .call (.form id) fun
  | .error f => .done (.error f)
  | .ok none => .done (.ok { success := false, message := "Form not found" })
  | .ok (some form) =>
    -- The data is read even when no workflow is started on it.
    match data.members with
    | .error f => .done (.error f)
    | .ok given =>
      match form.startedWorkflow? with
      | some workflow =>
        (execute now settings workflow (.object given)).map fun r => r.map Submission.ofExecution
      | none => .done (.ok { success := true, message := Submission.accepted, data := given })

end Fulfilment
