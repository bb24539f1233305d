import Fulfilment.Intake.Submission

/-!
# Invoking endpoints

A request to an endpoint is admitted when it carries an authorization or none is asked for. Its
handler then starts a workflow on the parts of the request, or submits the body to a form.

## Main definitions

* `Request`, `Response` - a request to an endpoint and the answer
* `Endpoint.admits` - whether an endpoint admits a request
* `Endpoint.handle`, `Endpoint.serve` - what an endpoint does with a request
* `invoke` - the answer to a request
-/

namespace Fulfilment

/-- A request to an endpoint. -/
structure Request where
  /-- The body. -/
  body : Value := .null
  /-- The values of the query. -/
  query : Value := .null
  /-- The values taken from the path. -/
  params : Value := .null
  /-- The headers, an object unless they are mistaken. -/
  headers : Value := .null
deriving Repr, Inhabited

/-- The answer to a request. -/
structure Response where
  /-- The status. -/
  status : Int
  /-- The body. -/
  body : Value.Fields
deriving Repr, Inhabited

namespace Response

/-- The response as a document. -/
def document (r : Response) : Value :=
  .object [("status", .int r.status), ("body", .object r.body)]

/-- The answer that something went wrong. -/
def wrong (status : Int) (message : String) : Response := ⟨status, [("error", .text message)]⟩

/-- The answer after an execution. -/
def ofExecution (status : Int) (r : ExecutionResult) : Response :=
  match r with
  | .stopped execution context _ =>
    ⟨status, [("executionId", .text execution), ("result", .object context)]⟩
  | r => ⟨500, [("error", .ofText? r.message?), ("executionId", .text r.execution)]⟩

/-- The answer after a submission. -/
def ofSubmission (status : Int) (s : Submission) : Response :=
  ⟨if s.success then status else 400, [("message", .text s.message), ("data", .object s.data)]⟩

/-- The answer of a handler that has nothing to do here. -/
def done (status : Int) : Response :=
  ⟨status, [("message", .text "Endpoint executed successfully")]⟩

end Response

namespace Request

/-- The headers of a request. -/
def headerFields (r : Request) : Except Failure Value.Fields :=
  if r.headers.truthy then
    match r.headers with
    | .object fs => .ok fs
    | v => .error (.noAttribute v.kindName "items")
  else .ok []

/-- The last header of a name in small letters, whatever letters the request uses. -/
def header? (headers : Value.Fields) (name : String) : Option Value :=
  (headers.reverse.find? fun e => Text.lower e.1.written = name).map (·.2)

/-- Whether headers carry an authorization. -/
def areAuthorized (headers : Value.Fields) : Bool :=
  ((header? headers "authorization").getD .null).truthy

/-- The input of a workflow that handles the request. -/
def input (r : Request) (body : Value.Fields) : Except Failure Value := do
  let query ← r.query.membersOrNone
  let params ← r.params.membersOrNone
  return .object [("body", .object body), ("query", .object query), ("params", .object params)]

end Request

/-- What a handler does with an admitted request. -/
inductive Duty where
  /-- Starts a workflow. -/
  | execute (workflow : String)
  /-- Submits a form. -/
  | submit (form : String)
  /-- Nothing is done here. -/
  | nothing
deriving DecidableEq, Repr, Inhabited

/-- What a handler does with an admitted request. Without an identifier it does nothing. -/
def Handler.duty (h : Handler) : Duty :=
  match h with
  | { kind := .workflow, workflowId := some id, .. } => if id = "" then .nothing else .execute id
  | { kind := .form, formId := some id, .. } => if id = "" then .nothing else .submit id
  | _ => .nothing

namespace Endpoint

/-- Whether an endpoint admits a request with some headers. -/
def admits (e : Endpoint) (headers : Value.Fields) : Bool :=
  !(e.authentication.any (·.required)) || Request.areAuthorized headers

/-- The answer to a failure while a request is handled. -/
def answer : Except Failure Response → Response
  | .ok r => r
  | .error f => .wrong 500 f.message

/-- Handles an admitted request. -/
def handle (now : Timestamp) (settings : WorkflowSettings) (e : Endpoint) (r : Request)
    (body : Value.Fields) : EngineProgram Response :=
  match e.handler.duty with
  | .execute workflow =>
    match r.input body with
    | .error f => .done (.wrong 500 f.message)
    | .ok input =>
      (execute now settings workflow input).map fun result =>
        answer (result.map (Response.ofExecution e.statusCode))
  | .submit form =>
    (submit now settings form (.object body)).map fun result =>
      answer (result.map (Response.ofSubmission e.statusCode))
  | .nothing => .done (.done e.statusCode)

/-- Answers a request, if the endpoint admits it. -/
def serve (now : Timestamp) (settings : WorkflowSettings) (e : Endpoint) (r : Request) :
    EngineProgram (Except Failure Response) :=
  match r.headerFields with
  | .error f => .done (.error f)
  | .ok headers =>
    if e.admits headers then
      -- A body that cannot be read is a failure of the request and not of the handler.
      match r.body.membersOrNone with
      | .error f => .done (.error f)
      | .ok body => (e.handle now settings r body).map .ok
    else .done (.ok (.wrong 401 "Authentication required"))

end Endpoint

/-- Answers a request to the endpoint of an identifier. -/
def invoke (now : Timestamp) (settings : WorkflowSettings) (id : Value) (r : Request) :
    EngineProgram (Except Failure Response) :=
  .call (.endpoint id) fun
  | .error f => .done (.error f)
  | .ok none => .done (.ok (.wrong 404 "Endpoint not found"))
  | .ok (some e) => e.serve now settings r

end Fulfilment
