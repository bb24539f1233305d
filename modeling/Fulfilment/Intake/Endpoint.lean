import Fulfilment.Workflow.Definition

/-!
# Endpoints

An endpoint answers requests to a route, which is a method and a path. Its handler starts a
workflow, submits a form, or does nothing here. An endpoint may ask requests for authentication.

## Main definitions

* `Method` - the methods of a route
* `Handler`, `Authentication` - what an endpoint does, and whom it admits
* `Endpoint` - an endpoint, with its `Endpoint.route`
* `Endpoint.check`, `Endpoint.document` - reading an endpoint from a document and writing it
-/

namespace Fulfilment

/-- The methods of a route. -/
inductive Method where
  /-- Reads something. -/
  | get
  /-- Sends something. -/
  | post
  /-- Replaces something. -/
  | put
  /-- Changes something. -/
  | patch
  /-- Removes something. -/
  | delete
deriving DecidableEq, Repr, Inhabited

/-- The words for the methods, in their order. -/
def Method.words : List (String × Method) :=
  [("GET", get), ("POST", post), ("PUT", put), ("PATCH", patch), ("DELETE", delete)]

/-- The word for a method. -/
def Method.word : Method → String
  | get => "GET"
  | post => "POST"
  | put => "PUT"
  | patch => "PATCH"
  | delete => "DELETE"

/-- The ways to handle a request. -/
inductive HandlerKind where
  /-- A workflow is started. -/
  | workflow
  /-- A form is submitted. -/
  | form
  /-- Something else happens elsewhere. -/
  | custom
  /-- A database is asked elsewhere. -/
  | database
deriving DecidableEq, Repr, Inhabited

/-- The words for the ways to handle a request, in their order. -/
def HandlerKind.words : List (String × HandlerKind) :=
  [("workflow", workflow), ("form", form), ("custom", custom), ("database", database)]

/-- The word for a way to handle a request. -/
def HandlerKind.word : HandlerKind → String
  | workflow => "workflow"
  | form => "form"
  | custom => "custom"
  | database => "database"

/-- What an endpoint does with a request. -/
structure Handler where
  /-- How the request is handled. -/
  kind : HandlerKind
  /-- The workflow to start. -/
  workflowId : Option String
  /-- The form to submit. -/
  formId : Option String
deriving Repr, Inhabited, DecidableEq

namespace Handler

/-- The handler that the members of an object describe. -/
def ofFields (fs : Value.Fields) : Schema.Checked Handler :=
  Handler.mk <$> Schema.required fs "type" (Schema.choice HandlerKind.words)
    <*> Schema.perhaps fs ⟨"workflowId", "workflow_id"⟩ Schema.text
    <*> Schema.perhaps fs ⟨"formId", "form_id"⟩ Schema.text

/-- The handler that a value describes. -/
def check : Value → Schema.Checked Handler := Schema.model "EndpointHandler" ofFields

/-- The handler as a document. -/
def document (h : Handler) : Value :=
  .object [("type", .text h.kind.word), ("workflow_id", .ofText? h.workflowId),
    ("form_id", .ofText? h.formId)]

end Handler

/-- Whom an endpoint admits. -/
structure Authentication where
  /-- Whether requests have to carry an authorization. -/
  required : Bool
  /-- The roles that are meant to be admitted. -/
  roles : List String
deriving Repr, Inhabited, DecidableEq

namespace Authentication

/-- The authentication that the members of an object describe. -/
def ofFields (fs : Value.Fields) : Schema.Checked Authentication :=
  Authentication.mk <$> Schema.optional fs "required" false Schema.boolean
    <*> Schema.optional fs "roles" [] (Schema.listOf Schema.text)

/-- The authentication that a value describes. -/
def check : Value → Schema.Checked Authentication :=
  Schema.model "EndpointAuthentication" ofFields

/-- The authentication as a document. -/
def document (a : Authentication) : Value :=
  .object [("required", .bool a.required), ("roles", .list (a.roles.map .text))]

end Authentication

/-- An endpoint. -/
structure Endpoint where
  /-- The name under which the endpoint is registered. -/
  id : String
  /-- What the endpoint is called. -/
  name : String
  /-- The path of its route. -/
  path : String
  /-- The method of its route. -/
  method : Method
  /-- What the endpoint is for. -/
  description : Option String
  /-- What the endpoint does with a request. -/
  handler : Handler
  /-- Whom the endpoint admits. -/
  authentication : Option Authentication
  /-- The status of a successful answer. -/
  statusCode : Int
  /-- When the endpoint was registered first. -/
  createdAt : Option Timestamp
  /-- When the endpoint was registered last. -/
  updatedAt : Option Timestamp
deriving Repr, Inhabited

namespace Endpoint

/-- The route that the endpoint answers. -/
def route (e : Endpoint) : String := e.method.word ++ ":" ++ e.path

/-- The endpoint that the members of an object describe. -/
def ofFields (fs : Value.Fields) : Schema.Checked Endpoint :=
  Endpoint.mk <$> Schema.optional fs "id" "" Schema.text
    <*> Schema.required fs "name" Schema.text
    <*> Schema.required fs "path" Schema.text
    <*> Schema.optional fs "method" .post (Schema.choice Method.words)
    <*> Schema.perhaps fs "description" Schema.text
    <*> Schema.required fs "handler" Handler.check
    <*> Schema.perhaps fs "authentication" Authentication.check
    <*> Schema.optional fs "status_code" 200 Schema.integer
    <*> Schema.perhaps fs "created_at" Schema.timestamp
    <*> Schema.perhaps fs "updated_at" Schema.timestamp

/-- The endpoint that a value describes. -/
def check : Value → Schema.Checked Endpoint := Schema.model "EndpointDefinition" ofFields

/-- The endpoint as a document. -/
def document (e : Endpoint) : Value :=
  .object [("id", .text e.id), ("name", .text e.name), ("path", .text e.path),
    ("method", .text e.method.word), ("description", .ofText? e.description),
    ("handler", e.handler.document),
    ("authentication", (e.authentication.map Authentication.document).getD .null),
    ("status_code", .int e.statusCode), ("created_at", .ofTimestamp? e.createdAt),
    ("updated_at", .ofTimestamp? e.updatedAt)]

end Endpoint

end Fulfilment
