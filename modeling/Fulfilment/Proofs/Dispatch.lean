import Fulfilment.Proofs.Admission

/-!
# What requests and submissions start

A request to an endpoint goes through two stages: the handler of the endpoint may start a workflow
or submit a form, and the submission of a form may start a workflow in its turn. At either stage an
identifier may be missing or empty, and what it names may not be registered. In all of these cases
one execution is started at most, and besides it definitions are only looked up.

What is started is given here as a list of executions, so that the calls of a request are those of
the executions in the list, and there are as many records as executions.

## Main definitions

* `Launch` - an execution that was started
* `Executes` - what a program of the engine starts, and what it comes to
* `Started`, `Submitted` - what comes of starting a workflow, and of a submission to a form

## Main results

* `Executes.kept_eq` - each execution is recorded once
* `executes_execute`, `executes_submit` - what starting a workflow and submitting a form start
* `invoke_dispatches` - what a request starts, and how it is answered
-/

namespace Fulfilment

open Program

variable {α β σ κ : Type}

/-! ### Executions that were started -/

/-- An execution that was started. -/
structure Launch (σ : Type) where
  /-- The workflow. -/
  workflow : Workflow
  /-- What the workflow was asked for by. -/
  asked : Value
  /-- The identifier of the execution. -/
  execution : String
  /-- The values that were given. -/
  given : Context
  /-- The state of the engine before the execution. -/
  before : σ

/-- Whether a call only prepares an execution: it looks a definition up, or issues an identifier. -/
def EngineCall.IsPreparation : EngineCall → Prop
  | .workflow _ | .form _ | .endpoint _ | .issue _ => True
  | .node _ | .keep _ | .publish _ => False

section Executes

variable (respond : Responder EngineCall EngineCall.Reply σ) (now : Timestamp)
  (settings : WorkflowSettings)

/-- The calls of an execution. -/
def Launch.events (l : Launch σ) : List EngineEvent :=
  (l.workflow.execute now settings l.asked l.execution l.given).trace respond l.before

/-- What the starter of an execution gets. -/
def Launch.result (l : Launch σ) : ExecutionResult :=
  ((l.workflow.execute now settings l.asked l.execution l.given).run respond l.before).1

/-- What a program of the engine does out of a state: it comes to a result, after executions in a
row, and besides these there are preparations only. -/
structure Executes (p : EngineProgram α) (s : σ) (ls : List (Launch σ)) (a : α) : Prop where
  /-- The result. -/
  result : (p.run respond s).1 = a
  /-- The calls. -/
  events : ∃ preparations, (∀ e ∈ preparations, EngineCall.IsPreparation e.1) ∧
    p.trace respond s = preparations ++ ls.flatMap (Launch.events respond now settings)

variable {respond now settings} {p : EngineProgram α} {s : σ} {ls : List (Launch σ)} {a : α}

theorem executes_done (a : α) (s : σ) : Executes respond now settings (.done a) s [] a :=
  ⟨rfl, [], by simp, rfl⟩

/-- An execution is what it starts. -/
theorem executes_launch (l : Launch σ) :
    Executes respond now settings (l.workflow.execute now settings l.asked l.execution l.given)
      l.before [l] (l.result respond now settings) :=
  ⟨rfl, [], by simp, by simp [Launch.events]⟩

theorem Executes.map (h : Executes respond now settings p s ls a) (f : α → β) :
    Executes respond now settings (p.map f) s ls (f a) := by
  obtain ⟨preparations, prepared, traced⟩ := h.events
  refine ⟨?_, preparations, prepared, ?_⟩
  · rw [run_map, h.result]
  · rw [trace_map, traced]

/-- A preparation starts nothing. -/
theorem Executes.prepare {c : EngineCall} {next : c.Reply → EngineProgram α}
    (prepares : c.IsPreparation)
    (rest : Executes respond now settings (next (respond c s).1) (respond c s).2 ls a) :
    Executes respond now settings (.call c next) s ls a := by
  obtain ⟨preparations, prepared, traced⟩ := rest.events
  refine ⟨rest.result, ⟨c, (respond c s).1⟩ :: preparations, ?_, ?_⟩
  · exact List.forall_mem_cons.mpr ⟨prepares, prepared⟩
  · rw [Program.trace, traced]
    rfl

/-- A preparation keeps no record. -/
theorem kept_of_preparations {es : List EngineEvent}
    (prepared : ∀ e ∈ es, EngineCall.IsPreparation e.1) : kept es = [] := by
  refine List.filterMap_eq_nil_iff.mpr fun e mem => ?_
  obtain ⟨c, reply⟩ := e
  cases c <;> first | rfl | exact (prepared _ mem).elim

theorem Launch.kept_events (l : Launch σ) :
    (kept (l.events respond now settings)).map ExecutionRecord.execution = [l.execution] := by
  obtain ⟨ms, run, traced⟩ := runs_run respond
    (l.workflow.execute now settings l.asked l.execution l.given) l.before
  obtain ⟨ts, failing, reached, -, -, -, keeps, -⟩ := Workflow.runs_execute run
  rw [Launch.events, ← traced, keeps]
  rfl

/-- Each execution is recorded once under its identifier, and nothing else is recorded. -/
theorem Executes.kept_eq (h : Executes respond now settings p s ls a) :
    (kept (p.trace respond s)).map ExecutionRecord.execution = ls.map Launch.execution := by
  obtain ⟨preparations, prepared, traced⟩ := h.events
  rw [traced, kept_append, kept_of_preparations prepared, List.nil_append]
  clear traced h
  induction ls with
  | nil => rfl
  | cons l ls ih => simp only [List.flatMap_cons, kept_append, List.map_append, l.kept_events, ih,
      List.map_cons, List.singleton_append]

end Executes

/-! ### What names a workflow or a form -/

/-- Whether an action on submission starts the workflow of an identifier. -/
def SubmitAction.StartsWorkflow (a : SubmitAction) (id : String) : Prop :=
  a.kind = .workflow ∧ a.workflowId = some id ∧ id ≠ ""

/-- Whether the submission of a form starts the workflow of an identifier. -/
def Form.StartsWorkflow (f : Form) (id : String) : Prop :=
  ∃ a, f.submitAction = some a ∧ a.StartsWorkflow id

/-- Whether a handler starts the workflow of an identifier. -/
def Handler.StartsWorkflow (h : Handler) (id : String) : Prop :=
  h.kind = .workflow ∧ h.workflowId = some id ∧ id ≠ ""

/-- Whether a handler submits the form of an identifier. -/
def Handler.SubmitsForm (h : Handler) (id : String) : Prop :=
  h.kind = .form ∧ h.formId = some id ∧ id ≠ ""

theorem Form.startedWorkflow?_eq_some {f : Form} {id : String} :
    f.startedWorkflow? = some id ↔ f.StartsWorkflow id := by
  cases action : f.submitAction with
  | none => simp [startedWorkflow?, StartsWorkflow, action]
  | some a =>
    obtain ⟨kind, endpoint, method, workflow⟩ := a
    cases kind <;> rcases workflow with _ | w <;>
      grind [startedWorkflow?, StartsWorkflow, SubmitAction.StartsWorkflow]

theorem Handler.duty_eq_execute {h : Handler} {id : String} :
    h.duty = .execute id ↔ h.StartsWorkflow id := by
  obtain ⟨kind, workflow, form⟩ := h
  cases kind <;> rcases workflow with _ | w <;> rcases form with _ | f <;>
    grind [duty, StartsWorkflow]

theorem Handler.duty_eq_submit {h : Handler} {id : String} :
    h.duty = .submit id ↔ h.SubmitsForm id := by
  obtain ⟨kind, workflow, form⟩ := h
  cases kind <;> rcases workflow with _ | w <;> rcases form with _ | f <;>
    grind [duty, SubmitsForm]

/-! ### Starting a workflow and submitting a form -/

section Engine

variable (others : Responder EngineCall EngineCall.Reply κ) (now : Timestamp)
  (settings : WorkflowSettings)

/-- What comes of starting a workflow of a registry on some values: the executions, and what the
starter gets. -/
inductive Started (r : Registry) (id : String) (given : Context) :
    List (Launch (Registry × κ)) → ExecutionResult → Prop
  /-- The workflow is not registered. -/
  | unknown (missing : r.workflows.get? id = none) :
      Started r id given [] (.refused "Workflow not found")
  /-- The workflow is executed once, on these values and under a new identifier. -/
  | known {l : Launch (Registry × κ)} (found : r.workflows.get? id = some l.workflow)
      (asked : l.asked = .text id) (on : l.given = given)
      (issued : l.execution = (r.issue "exec").1) :
      Started r id given [l] (l.result (Registry.engine others) now settings)

/-- What comes of a submission to a form of a registry. -/
structure Submitted (r : Registry) (form : String) (data : Value.Fields)
    (ls : List (Launch (Registry × κ))) (s : Submission) : Prop where
  /-- A workflow is executed where the form starts one that is registered. -/
  one_iff : ls.length = 1 ↔ ∃ f id w, r.forms.get? form = some f ∧ f.StartsWorkflow id ∧
    r.workflows.get? id = some w
  /-- There are no other executions. -/
  length_le : ls.length ≤ 1
  /-- The execution is of this workflow, on the data itself, under a new identifier. -/
  each : ∀ l ∈ ls, l.given = data ∧ l.execution = (r.issue "exec").1 ∧
    ∃ f id, r.forms.get? form = some f ∧ f.StartsWorkflow id ∧
      r.workflows.get? id = some l.workflow ∧ l.asked = .text id
  /-- The submission fails where the form is missing, its workflow is unknown, or the execution
  fails. -/
  failed_iff : s.success = false ↔ r.forms.get? form = none ∨
    ∃ f id, r.forms.get? form = some f ∧ f.StartsWorkflow id ∧
      (r.workflows.get? id = none ∨
        ∃ l ∈ ls, (l.result (Registry.engine others) now settings).success = false)

variable {others now settings} {r : Registry} {k : κ} {id : String}
  {ls : List (Launch (Registry × κ))}

variable (others now settings) in
/-- Starting a workflow on an object executes it once if it is registered. -/
theorem executes_execute (r : Registry) (k : κ) (id : String) (given : Value.Fields) :
    ∃ ls result, Started others now settings r id given ls result ∧
      Executes (Registry.engine others) now settings
        (execute now settings (.text id) (.object given)) (r, k) ls (.ok result) := by
  cases found : r.workflows.get? id with
  | none =>
    refine ⟨[], _, .unknown found, .prepare trivial ?_⟩
    simp only [Registry.engine, Value.entryOf_text, found]
    exact executes_done _ _
  | some w =>
    let l : Launch (Registry × κ) :=
      ⟨w, .text id, (r.issue "exec").1, given, ((r.issue "exec").2, k)⟩
    refine ⟨[l], _, .known found rfl rfl rfl, .prepare trivial ?_⟩
    simp only [Registry.engine, Value.entryOf_text, found, Value.membersOrNone_object]
    exact .prepare trivial ((executes_launch l).map Except.ok)

/-- A form that starts a workflow is submitted as the workflow is started. -/
theorem submitted_of_started {f : Form} {form : String} {data : Value.Fields}
    {result : ExecutionResult} (found : r.forms.get? form = some f) (starts : f.StartsWorkflow id)
    (started : Started others now settings r id data ls result) :
    Submitted others now settings r form data ls (.ofExecution result) := by
  -- The form names one workflow only.
  have only {f' : Form} {id' : String} (found' : r.forms.get? form = some f')
      (starts' : f'.StartsWorkflow id') : id' = id := by
    cases found.symm.trans found'
    rw [← Form.startedWorkflow?_eq_some] at starts starts'
    exact Option.some.inj (starts'.symm.trans starts)
  cases started with
  | unknown missing =>
    refine ⟨⟨nofun, ?_⟩, Nat.zero_le 1, by simp, ⟨fun _ => ?_, fun _ => rfl⟩⟩
    · rintro ⟨f', id', w, found', starts', known⟩
      rw [only found' starts', missing] at known
      cases known
    · exact .inr ⟨f, id, found, starts, .inl missing⟩
  | @known l known asked on issued =>
    refine ⟨⟨fun _ => ⟨f, id, l.workflow, found, starts, known⟩, fun _ => rfl⟩, Nat.le_refl 1,
      ?_, ?_⟩
    · rw [List.forall_mem_singleton]
      exact ⟨on, issued, f, id, found, starts, known, asked⟩
    · rw [Submission.success_ofExecution]
      constructor
      · intro failed
        exact .inr ⟨f, id, found, starts, .inr ⟨l, List.mem_cons_self, failed⟩⟩
      · rintro (missing | ⟨f', id', found', starts', missing | ⟨l', mem, failed⟩⟩)
        · rw [found] at missing
          cases missing
        · rw [only found' starts', known] at missing
          cases missing
        · rwa [List.mem_singleton.mp mem] at failed

/-- A form that starts no workflow, or is not there, executes nothing. -/
theorem submitted_of_not_starts {form : String} {data : Value.Fields} {s : Submission}
    (idle : ∀ f id, r.forms.get? form = some f → ¬ f.StartsWorkflow id)
    (failed : s.success = false ↔ r.forms.get? form = none) :
    Submitted others now settings r form data [] s := by
  refine ⟨⟨nofun, ?_⟩, Nat.zero_le 1, by simp, failed.trans ⟨.inl, ?_⟩⟩
  · rintro ⟨f, id, -, found, starts, -⟩
    exact absurd starts (idle f id found)
  · rintro (missing | ⟨f, id, found, starts, -⟩)
    · exact missing
    · exact absurd starts (idle f id found)

variable (others now settings) in
/-- Submitting an object to a form starts what its action on submission says. -/
theorem executes_submit (r : Registry) (k : κ) (form : String) (data : Value.Fields) :
    ∃ ls s, Submitted others now settings r form data ls s ∧
      Executes (Registry.engine others) now settings
        (submit now settings (.text form) (.object data)) (r, k) ls (.ok s) := by
  cases found : r.forms.get? form with
  | none =>
    refine ⟨[], ⟨false, "Form not found", [], none⟩, submitted_of_not_starts ?_ ?_,
      .prepare trivial ?_⟩
    · simp [found]
    · simp [found]
    · simp only [Registry.engine, Value.entryOf_text, found]
      exact executes_done _ _
  | some f =>
    cases starts : f.startedWorkflow? with
    | none =>
      refine ⟨[], ⟨true, Submission.accepted, data, none⟩, submitted_of_not_starts ?_ ?_,
        .prepare trivial ?_⟩
      · rintro f' id found' starts'
        cases found.symm.trans found'
        rw [← Form.startedWorkflow?_eq_some, starts] at starts'
        cases starts'
      · simp [found]
      · simp only [Registry.engine, Value.entryOf_text, found, Value.members_object, starts]
        exact executes_done _ _
    | some id =>
      obtain ⟨ls, result, started, executes⟩ :=
        executes_execute others now settings r k id data
      refine ⟨ls, _, submitted_of_started found (Form.startedWorkflow?_eq_some.mp starts) started,
        .prepare trivial ?_⟩
      simp only [Registry.engine, Value.entryOf_text, found, Value.members_object, starts]
      exact executes.map (Except.map Submission.ofExecution)

/-! ### Requests -/

/-- How an endpoint answers after an execution. -/
inductive Answered (status : Int) : ExecutionResult → Response → Prop
  /-- With its own status, the identifier and the context, if the execution succeeded. -/
  | succeeded (execution : String) (context : Context) (outcome : Outcome) :
      Answered status (.stopped execution context outcome)
        ⟨status, [("executionId", .text execution), ("result", .object context)]⟩
  /-- With a status of its kind, the message and the identifier, if it failed. The identifier is
  empty where nothing was executed. -/
  | failed {result : ExecutionResult} {message : String} (failed : result.success = false)
      (why : result.message? = some message) :
      Answered status result
        ⟨500, [("error", .text message), ("executionId", .text result.execution)]⟩

/-- Whether a value stands for some members: for none, there need not be an object. -/
def Value.StandsFor (v : Value) (fs : Value.Fields) : Prop := v = .object fs ∨ fs = [] ∧ v = .null

theorem Value.StandsFor.membersOrNone {v : Value} {fs : Value.Fields} (h : v.StandsFor fs) :
    v.membersOrNone = .ok fs := by
  rcases h with rfl | ⟨rfl, rfl⟩
  · exact Value.membersOrNone_object fs
  · rfl

variable (others now settings)

/-- What comes of a request to an endpoint, by what its handler is for. -/
structure Dispatched (r : Registry) (e : Endpoint) (body query params : Value.Fields)
    (ls : List (Launch (Registry × κ))) (response : Response) : Prop where
  /-- A workflow is started on the three parts of the request. -/
  workflow : ∀ id, e.handler.StartsWorkflow id → ∃ result,
    Started others now settings r id
      [("body", .object body), ("query", .object query), ("params", .object params)] ls result ∧
    Answered e.statusCode result response
  /-- The body is submitted to a form. -/
  form : ∀ id, e.handler.SubmitsForm id → ∃ s, Submitted others now settings r id body ls s ∧
    response = ⟨if s.success then e.statusCode else 400,
      [("message", .text s.message), ("data", .object s.data)]⟩
  /-- Nothing is done. -/
  otherwise : (∀ id, ¬ e.handler.StartsWorkflow id) → (∀ id, ¬ e.handler.SubmitsForm id) →
    ls = [] ∧ response = ⟨e.statusCode, [("message", .text "Endpoint executed successfully")]⟩
  /-- There is one execution at most, and it is under a new identifier. -/
  atMostOne : ls.length ≤ 1 ∧ ∀ l ∈ ls, l.execution = (r.issue "exec").1

variable {others now settings}

theorem answered_ofExecution (status : Int) (result : ExecutionResult) :
    Answered status result (.ofExecution status result) := by
  cases result with
  | stopped execution context outcome => exact .succeeded execution context outcome
  | refused message => exact .failed rfl rfl
  | failed execution message => exact .failed rfl rfl

theorem Started.atMostOne {given : Context} {result : ExecutionResult}
    (h : Started others now settings r id given ls result) :
    ls.length ≤ 1 ∧ ∀ l ∈ ls, l.execution = (r.issue "exec").1 := by
  cases h with
  | unknown missing => exact ⟨Nat.zero_le 1, by simp⟩
  | known found asked on issued => exact ⟨Nat.le_refl 1, by simpa using issued⟩

section Handling

variable {e : Endpoint} {body query params : Value.Fields}

theorem dispatched_of_workflow {result : ExecutionResult} (duty : e.handler.duty = .execute id)
    (started : Started others now settings r id
      [("body", .object body), ("query", .object query), ("params", .object params)] ls result) :
    Dispatched others now settings r e body query params ls (.ofExecution e.statusCode result) where
  workflow id' starts := by
    rw [← Handler.duty_eq_execute, duty] at starts
    cases starts
    exact ⟨result, started, answered_ofExecution e.statusCode result⟩
  form id' submits := by
    rw [← Handler.duty_eq_submit, duty] at submits
    cases submits
  otherwise idle _ := absurd (Handler.duty_eq_execute.mp duty) (idle id)
  atMostOne := started.atMostOne

theorem dispatched_of_form {s : Submission} (duty : e.handler.duty = .submit id)
    (submitted : Submitted others now settings r id body ls s) :
    Dispatched others now settings r e body query params ls (.ofSubmission e.statusCode s) where
  workflow id' starts := by
    rw [← Handler.duty_eq_execute, duty] at starts
    cases starts
  form id' submits := by
    rw [← Handler.duty_eq_submit, duty] at submits
    cases submits
    exact ⟨s, submitted, rfl⟩
  otherwise _ idle := absurd (Handler.duty_eq_submit.mp duty) (idle id)
  atMostOne := ⟨submitted.length_le, fun l mem => (submitted.each l mem).2.1⟩

theorem dispatched_of_nothing (duty : e.handler.duty = .nothing) :
    Dispatched others now settings r e body query params [] (.done e.statusCode) where
  workflow id starts := by
    rw [← Handler.duty_eq_execute, duty] at starts
    cases starts
  form id submits := by
    rw [← Handler.duty_eq_submit, duty] at submits
    cases submits
  otherwise _ _ := ⟨rfl, rfl⟩
  atMostOne := ⟨Nat.zero_le 1, by simp⟩

variable (others now settings) in
/-- Handling a request starts what the handler is for. -/
theorem executes_handle (e : Endpoint) {request : Request} (body : Value.Fields) (r : Registry)
    (k : κ) (queries : request.query.StandsFor query)
    (parameters : request.params.StandsFor params) :
    ∃ ls response, Dispatched others now settings r e body query params ls response ∧
      Executes (Registry.engine others) now settings (e.handle now settings request body) (r, k) ls
        response := by
  have input : request.input body =
      .ok (.object [("body", .object body), ("query", .object query),
        ("params", .object params)]) := by
    rw [Request.input, queries.membersOrNone, parameters.membersOrNone]
    rfl
  cases duty : e.handler.duty with
  | execute id =>
    obtain ⟨ls, result, started, executes⟩ := executes_execute others now settings r k id
      [("body", .object body), ("query", .object query), ("params", .object params)]
    refine ⟨ls, _, dispatched_of_workflow duty started, ?_⟩
    simp only [Endpoint.handle, duty, input]
    exact executes.map _
  | submit id =>
    obtain ⟨ls, s, submitted, executes⟩ :=
      executes_submit others now settings r k id body
    refine ⟨ls, _, dispatched_of_form duty submitted, ?_⟩
    simp only [Endpoint.handle, duty]
    exact executes.map _
  | nothing =>
    refine ⟨[], _, dispatched_of_nothing duty, ?_⟩
    simp only [Endpoint.handle, duty]
    exact executes_done _ _

/-- An admitted request is handled, after the lookup of its endpoint. -/
theorem executes_invoke {request : Request} {headers : List (String × Value)}
    (registered : r.endpoints.get? id = some e)
    (given : request.HasHeaders headers)
    (passes : ∀ a ∈ e.authentication, a.required = true → Request.Authorizes headers)
    (bodies : request.body.StandsFor body) (queries : request.query.StandsFor query)
    (parameters : request.params.StandsFor params) (k : κ) :
    ∃ ls response, Dispatched others now settings r e body query params ls response ∧
      Executes (Registry.engine others) now settings (invoke now settings (.text id) request)
        (r, k) ls (.ok response) := by
  have admitted : e.admits (headers.map fun h => (.text h.1, h.2)) = true := by
    rw [Endpoint.admits, Bool.or_eq_true, Request.areAuthorized_iff, Bool.not_eq_true']
    cases asks : e.authentication with
    | none => exact .inl rfl
    | some a =>
      cases required : a.required with
      | false => exact .inl required
      | true => exact .inr (passes a asks required)
  obtain ⟨ls, response, dispatched, executes⟩ :=
    executes_handle others now settings e body r k queries parameters
  refine ⟨ls, response, dispatched, .prepare trivial ?_⟩
  simp only [Registry.engine, Value.entryOf_text, registered, Endpoint.serve,
    Request.headerFields_of_hasHeaders given, admitted, if_true, bodies.membersOrNone]
  exact executes.map Except.ok

end Handling

end Engine

/-! ### Records -/

/-- What is in the archive after a program of an engine with a registry is what was there before and
what was kept meanwhile. -/
theorem Collaborators.archive_engine {η : Type} (k : Collaborators η κ) (p : EngineProgram α)
    (s : Registry × EngineRoom η κ) :
    (p.run (Registry.engine k.respond) s).2.2.archive =
      (kept (p.trace (Registry.engine k.respond) s)).foldl Archive.keep s.2.archive := by
  induction p generalizing s with
  | done a => rfl
  | call c next ih =>
    rw [run_call, ih, Program.trace]
    cases c <;> rfl

/-- Records under new identifiers, one at most, are added to an archive. -/
theorem Archive.length_foldl_keep {a : Archive} {rs : List ExecutionRecord} (few : rs.length ≤ 1)
    (new : ∀ record ∈ rs, a.find? record.execution = none) :
    (rs.foldl Archive.keep a).length = a.length + rs.length := by
  match rs, few with
  | [], _ => rfl
  | [record], _ =>
    rw [List.foldl_cons, List.foldl_nil, Archive.keep_of_new (new record List.mem_cons_self),
      List.length_append]
    rfl

/-- **What a request starts.** Whatever is registered and whatever the collaborators do, a request
that passes the check of its endpoint is answered, and one execution is started for it at most: by
the handler, on the three parts of the request, or by the form that the handler names, on the body
itself. The answer is made from what comes of it. The calls are those of the execution after some
lookups, and what is added to the archive is the record of the execution. -/
theorem invoke_dispatches {η : Type} (k : Collaborators η κ) (now : Timestamp)
    (settings : WorkflowSettings) {r : Registry} {id : String} {e : Endpoint}
    (registered : r.endpoints.get? id = some e) {request : Request}
    {headers : List (String × Value)} (given : request.HasHeaders headers)
    (passes : ∀ a ∈ e.authentication, a.required = true → Request.Authorizes headers)
    {body query params : Value.Fields} (bodies : request.body.StandsFor body)
    (queries : request.query.StandsFor query) (parameters : request.params.StandsFor params)
    (room : EngineRoom η κ) :
    let respond := Registry.engine k.respond
    let program := invoke now settings (.text id) request
    let records := kept (program.trace respond (r, room))
    let archive := (program.run respond (r, room)).2.2.archive
    ∃ ls response,
      Executes respond now settings program (r, room) ls (.ok response) ∧
      Dispatched k.respond now settings r e body query params ls response ∧
      records.map ExecutionRecord.execution = ls.map Launch.execution ∧
      archive = records.foldl Archive.keep room.archive ∧
      (room.archive.find? (r.issue "exec").1 = none →
        archive.length = room.archive.length + ls.length) := by
  intro respond program records archive
  obtain ⟨ls, response, dispatched, executes⟩ :=
    executes_invoke registered given passes bodies queries parameters room
  have same : records.map ExecutionRecord.execution = ls.map Launch.execution := executes.kept_eq
  have archived : archive = records.foldl Archive.keep room.archive :=
    k.archive_engine program (r, room)
  refine ⟨ls, response, executes, dispatched, same, archived, fun new => ?_⟩
  obtain ⟨few, issued⟩ := dispatched.atMostOne
  have length : records.length = ls.length := by simpa using congrArg List.length same
  rw [archived, ← length]
  refine Archive.length_foldl_keep (length ▸ few) fun record mem => ?_
  -- The record is under the identifier of the execution, which is the new one.
  have mem := List.mem_map_of_mem (f := ExecutionRecord.execution) mem
  rw [same] at mem
  obtain ⟨l, started, named⟩ := List.mem_map.mp mem
  rw [← named, issued l started, new]

/-- A form that starts a workflow. -/
def Form.startingSample : Form where
  id := "form-1"
  name := "Orders"
  description := none
  submitAction := some ⟨.workflow, none, none, some "wf-1"⟩
  createdAt := none
  updatedAt := none

/-- An endpoint that submits to a form, which starts a workflow: the workflow is executed once, on
the body of the request. -/
theorem invoke_dispatches_sample :
    let e : Endpoint := { Endpoint.lockedSample with handler := ⟨.form, none, some "form-1"⟩ }
    let r : Registry := { workflows := [("wf-1", .dangling)],
                          forms := [("form-1", .startingSample)], endpoints := [("ep-1", e)] }
    let k := Collaborators.idle .dangling
    let room : EngineRoom Unit Unit := { hidden := () }
    let body : Value.Fields := [("size", .int 3)]
    let request : Request :=
      { body := .object body, headers := .object [("Authorization", "token")] }
    let program := invoke default {} "ep-1" request
    ∃ l response,
      Executes (Registry.engine k.respond) default {} program (r, room) [l] (.ok response) ∧
      l.workflow = .dangling ∧ l.given = body ∧ response.status = 201 ∧
      (program.run (Registry.engine k.respond) (r, room)).2.2.archive.length = 1 := by
  intro e r k room body request program
  have authorized : Request.Authorizes [("Authorization", "token")] := by
    rw [← Request.areAuthorized_iff]
    decide +kernel
  have registered : r.endpoints.get? "ep-1" = some e := rfl
  have given : request.HasHeaders [("Authorization", "token")] := .inl rfl
  have bodies : request.body.StandsFor body := .inl rfl
  have nothing : Value.StandsFor .null [] := .inr ⟨rfl, rfl⟩
  obtain ⟨ls, response, executes, dispatched, -, -, archived⟩ :=
    invoke_dispatches k default {} registered given (fun _ _ _ => authorized) bodies nothing nothing
      room
  obtain ⟨s, submitted, -⟩ := dispatched.form "form-1" ⟨rfl, rfl, by decide⟩
  have starts : Form.startingSample.StartsWorkflow "wf-1" := ⟨_, rfl, rfl, rfl, by decide⟩
  have single : ls.length = 1 := submitted.one_iff.mpr ⟨_, _, _, rfl, starts, rfl⟩
  obtain ⟨l, rfl⟩ := List.length_eq_one_iff.mp single
  obtain ⟨on, -, f, id, found, starts', known, -⟩ := submitted.each l List.mem_cons_self
  cases found
  obtain rfl : id = "wf-1" := by
    rw [← Form.startedWorkflow?_eq_some] at starts starts'
    exact Option.some.inj (starts'.symm.trans starts)
  have status : (program.run (Registry.engine k.respond) (r, room)).1.toOption.map Response.status =
      some 201 := by
    decide +kernel
  rw [executes.result] at status
  exact ⟨l, response, executes, (Option.some.inj known).symm, on, Option.some.inj status,
    archived rfl⟩

end Fulfilment
