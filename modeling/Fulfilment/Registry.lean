import Fulfilment.Document.Entries
import Fulfilment.Identifier
import Fulfilment.Intake.Endpoint
import Fulfilment.Intake.Form
import Fulfilment.Text.Letters

/-!
# The registry

Workflows, forms and endpoints are registered under their identifiers. A definition without an
identifier gets a new one. Registering under a known identifier replaces the old definition, and no
two endpoints answer the same route.

## Main definitions

* `Registry` - the registered definitions, with the number of identifiers issued
* `Registration` - what changes a registry, and may fail on the way
* `Registry.registerWorkflow`, `Registry.registerForm`, `Registry.registerEndpoint` - registering
* `Registry.reviseWorkflow` - changing some members of a workflow
* `Registry.findEndpoint` - the endpoint of a route
* `Registry.load` - registering many definitions

## Main results

* `Registry.endpoints_addWorkflow`, `Registry.endpoints_addForm` - what leaves the routes alone
-/

namespace Fulfilment

/-- The registered definitions. -/
structure Registry where
  /-- The workflows. -/
  workflows : Catalog String Workflow := []
  /-- The forms. -/
  forms : Catalog String Form := []
  /-- The endpoints. -/
  endpoints : Catalog String Endpoint := []
  /-- How many identifiers have been issued. -/
  issued : Nat := 0
deriving Repr, Inhabited

/-- What registers something: it reads and changes the registry, and may fail on the way. What it
has changed before it fails stays. -/
abbrev Registration := ExceptT Failure (StateM Registry)

namespace Registration

variable {α β : Type}

/-- What a registration comes to, and the registry after it. -/
def perform (p : Registration α) (r : Registry) : Except Failure α × Registry := p.run.run r

/-- What a registration that succeeds comes to, with the registry after it. -/
def attempt (p : Registration α) (r : Registry) : Except Failure (α × Registry) :=
  match p.perform r with
  | (.ok a, r) => .ok (a, r)
  | (.error f, _) => .error f

@[simp] theorem perform_pure (a : α) (r : Registry) :
    perform (pure a) r = (.ok a, r) := rfl

@[simp] theorem perform_lift (x : Except Failure α) (r : Registry) :
    perform (liftM x) r = (x, r) := rfl

theorem perform_bind (p : Registration α) (f : α → Registration β) (r : Registry) :
    (p >>= f).perform r =
      match p.perform r with
      | (.ok a, r) => (f a).perform r
      | (.error e, r) => (.error e, r) := by
  simp only [perform, ExceptT.run_bind, StateT.run_bind]
  rcases p.run.run r with ⟨_ | _, _⟩ <;> rfl

end Registration

namespace Registry

/-- Issues a new identifier for a thing of a kind. -/
def issue (kind : String) (r : Registry) : String × Registry :=
  (Identifier.numbered kind (r.issued + 1), { r with issued := r.issued + 1 })

/-- The identifier of a definition, which is a new one when it has none. -/
def identify (kind id : String) (r : Registry) : String × Registry :=
  if id = "" then r.issue kind else (id, r)

/-- Registers a workflow. -/
def addWorkflow (now : Timestamp) (w : Workflow) (r : Registry) : Workflow × Registry :=
  let (id, r) := r.identify "workflow" w.id
  let w := { w with id := id, createdAt := some (w.createdAt.getD now), updatedAt := some now }
  (w, { r with workflows := r.workflows.put id w })

/-- Registers the workflow that a document describes. -/
def registerWorkflow (now : Timestamp) (v : Value) : Registration Workflow := do
  let w ← Failure.ofChecked (Workflow.check v)
  modifyGet (addWorkflow now w)

/-- A registry with a workflow registered. -/
def createWorkflow (now : Timestamp) (v : Value) (r : Registry) :
    Except Failure (Workflow × Registry) := (registerWorkflow now v).attempt r

/-- Registers a form. -/
def addForm (now : Timestamp) (f : Form) (r : Registry) : Form × Registry :=
  let (id, r) := r.identify "form" f.id
  let f := { f with id := id, createdAt := some (f.createdAt.getD now), updatedAt := some now }
  (f, { r with forms := r.forms.put id f })

/-- Registers the form that a document describes. -/
def registerForm (now : Timestamp) (v : Value) : Registration Form := do
  let f ← Failure.ofChecked (Form.check v)
  modifyGet (addForm now f)

/-- A registry with a form registered. -/
def createForm (now : Timestamp) (v : Value) (r : Registry) : Except Failure (Form × Registry) :=
  (registerForm now v).attempt r

/-- The first endpoint of a route. -/
def endpointOn? (route : String) (r : Registry) : Option Endpoint :=
  r.endpoints.entries.find? (·.route = route)

/-- The endpoint of a method, in small or capital letters, and a path. -/
def findEndpoint (method path : Value) (r : Registry) : Except Failure (Option Endpoint) :=
  match method with
  | .text method => .ok (r.endpointOn? (Text.upper method ++ ":" ++ path.plain))
  | v => .error (.noAttribute v.kindName "upper")

/-- Registers an endpoint. -/
def addEndpoint (now : Timestamp) (e : Endpoint) (r : Registry) : Endpoint × Registry :=
  let (id, r) := r.identify "endpoint" e.id
  let e := { e with id := id, createdAt := some (e.createdAt.getD now), updatedAt := some now }
  (e, { r with endpoints := r.endpoints.put id e })

/-- The endpoint, other than that of an identifier, which answers a route. -/
def rival? (route id : String) (r : Registry) : Option Endpoint :=
  (r.endpointOn? route).filter (·.id ≠ id)

/-- Registers the endpoint that a document describes, unless another one answers its route. -/
def registerEndpoint (now : Timestamp) (v : Value) : Registration Endpoint := do
  let e ← Failure.ofChecked (Endpoint.check v)
  -- The route is looked at before an identifier is issued.
  match (← get).rival? e.route e.id with
  | some other => throw (.routeTaken e.route other.id)
  | none => modifyGet (addEndpoint now e)

/-- A registry with an endpoint registered. -/
def createEndpoint (now : Timestamp) (v : Value) (r : Registry) :
    Except Failure (Endpoint × Registry) := (registerEndpoint now v).attempt r

/-- A workflow with members changed. Its identifier stays, and the time of the change is noted. -/
def revised (now : Timestamp) (w : Workflow) (id : String) (updates : Value) :
    Except Failure Workflow :=
  match updates with
  | .object updates =>
    -- The identifier and the time of the change are not for the updates to say.
    let fixed : Value.Fields := [("id", .text id), ("updated_at", .timestamp now)]
    Failure.ofChecked (Workflow.check (.object ((w.toFields.overlay updates).overlay fixed)))
  | v => .error (.notMapping v.kindName)

/-- Changes members of a registered workflow, if there is one of the identifier. -/
def reviseWorkflow (now : Timestamp) (id updates : Value) : Registration (Option Workflow) := do
  match id with
  | .text id =>
    match (← get).workflows.get? id with
    | none => return none
    | some w =>
      -- The revised definition is checked before anything is registered.
      let w ← revised now w id updates
      modify fun r => { r with workflows := r.workflows.put id w }
      return some w
  | v =>
    let _ ← v.asName
    return none

/-- A registry with members of a workflow changed. -/
def updateWorkflow (now : Timestamp) (id updates : Value) (r : Registry) :
    Except Failure (Option (Workflow × Registry)) :=
  ((reviseWorkflow now id updates).attempt r).map fun (w?, r) => w?.map (·, r)

/-- Whether definitions have one of an identifier, and the definitions without it. Where there are
no definitions, nothing is looked up. -/
def without {α : Type} (definitions : Catalog String α) (id : Value) :
    Except Failure (Bool × Catalog String α) :=
  match definitions, id with
  | [], _ => .ok (false, [])
  | ds, .text id => .ok (ds.has id, ds.remove id)
  | ds, v => v.asName.map fun _ => (false, ds)

/-- Removes the workflow of an identifier, and tells whether there was one. -/
def deleteWorkflow (id : Value) (r : Registry) : Except Failure (Bool × Registry) :=
  (without r.workflows id).map fun (known, ws) => (known, { r with workflows := ws })

/-- Removes the form of an identifier, and tells whether there was one. -/
def deleteForm (id : Value) (r : Registry) : Except Failure (Bool × Registry) :=
  (without r.forms id).map fun (known, fs) => (known, { r with forms := fs })

/-- Removes the endpoint of an identifier, and tells whether there was one. -/
def deleteEndpoint (id : Value) (r : Registry) : Except Failure (Bool × Registry) :=
  (without r.endpoints id).map fun (known, es) => (known, { r with endpoints := es })

/-- Definitions that are to be registered together, each kind as a value that lists documents. -/
structure Definitions where
  /-- The workflows. -/
  workflows : Value := .list []
  /-- The forms. -/
  forms : Value := .list []
  /-- The endpoints. -/
  endpoints : Value := .list []
deriving Repr, Inhabited

/-- Registers the documents that a value lists, one after the other, up to the first that is
refused. -/
def loadEach {α : Type} (register : Value → Registration α) (v : Value) : Registration Unit := do
  for v in ← v.parts do
    let _ ← register v

/-- Registers definitions, up to the first that is refused: the workflows, the forms, and then the
endpoints. -/
def load (now : Timestamp) (d : Definitions) : Registration Unit := do
  loadEach (registerWorkflow now) d.workflows
  loadEach (registerForm now) d.forms
  loadEach (registerEndpoint now) d.endpoints

@[simp] theorem workflows_identify (kind id : String) (r : Registry) :
    (r.identify kind id).2.workflows = r.workflows := by
  unfold identify; split <;> rfl

@[simp] theorem forms_identify (kind id : String) (r : Registry) :
    (r.identify kind id).2.forms = r.forms := by
  unfold identify; split <;> rfl

@[simp] theorem endpoints_identify (kind id : String) (r : Registry) :
    (r.identify kind id).2.endpoints = r.endpoints := by
  unfold identify; split <;> rfl

@[simp] theorem endpoints_addWorkflow (now : Timestamp) (w : Workflow) (r : Registry) :
    (r.addWorkflow now w).2.endpoints = r.endpoints := endpoints_identify "workflow" w.id r

@[simp] theorem endpoints_addForm (now : Timestamp) (f : Form) (r : Registry) :
    (r.addForm now f).2.endpoints = r.endpoints := endpoints_identify "form" f.id r

theorem id_addEndpoint (now : Timestamp) (e : Endpoint) (r : Registry) :
    (r.addEndpoint now e).1.id = (r.identify "endpoint" e.id).1 := rfl

theorem endpoints_addEndpoint (now : Timestamp) (e : Endpoint) (r : Registry) :
    (r.addEndpoint now e).2.endpoints =
      r.endpoints.put (r.addEndpoint now e).1.id (r.addEndpoint now e).1 := by
  simp [addEndpoint]

end Registry

end Fulfilment
