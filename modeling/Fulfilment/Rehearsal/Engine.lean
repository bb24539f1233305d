import Fulfilment.Bus
import Fulfilment.Execution.Service
import Fulfilment.Intake.Invocation
import Fulfilment.Registry
import Fulfilment.Rehearsal.Faults

/-!
# An engine for rehearsals

A workflow engine that runs without a network and without waiting. Its actions do as they are told,
services answer from a script or from a table, and whatever the engine does is noted down.

## Main definitions

* `Rehearsal.ActionEffect`, `Rehearsal.perform` - what scripted actions do
* `Rehearsal.Services` - how services answer
* `Rehearsal.Engine` - the engine
* `Rehearsal.Engine.respond` - what the engine replies to calls
-/

namespace Fulfilment.Rehearsal

/-- What a scripted action does, step by step. -/
inductive ActionEffect where
  /-- Writes on the context. -/
  | write (w : Write)
  /-- Fails. -/
  | fail (f : Failure)
  /-- Ends the action. -/
  | finish
deriving Repr, Inhabited

/-- What a scripted action leaves behind. -/
def perform : List ActionEffect → ContextReply Unit
  | [] => { result := .ok () }
  | .write w :: es => { perform es with writes := w :: (perform es).writes }
  | .fail f :: _ => { result := .error f }
  | .finish :: _ => { result := .ok () }

/-- How services answer. -/
inductive Services where
  /-- As a script says, endpoint by endpoint; those that are not listed produce nothing. -/
  | scripted (replies : Catalog String (Except Failure Value))
  /-- Over HTTP. -/
  | overHttp (table : HttpTable)

/-- The methods of an engine that faults disturb. -/
inductive EngineMethod where
  /-- Looking a workflow up. -/
  | workflow
  /-- Looking a form up. -/
  | form
  /-- Looking an endpoint up. -/
  | endpoint
  /-- Keeping a record. -/
  | keep
  /-- Looking a record up. -/
  | record
  /-- Publishing an event. -/
  | publish
deriving DecidableEq, Repr, Inhabited

/-- A fault of an engine. -/
structure EngineFault where
  /-- The method that is disturbed. -/
  method : EngineMethod
  /-- The calls, by number, that fail. -/
  turns : Turns := {}
  /-- The failure. -/
  failure : Failure
  /-- How many calls there have been. -/
  count : Nat := 0
deriving Repr

/-- A handler of events that notes them down, and may fail. -/
structure Listener where
  /-- The failure of the handler. -/
  failure : Option Failure := none
deriving Repr, Inhabited

/-- A workflow engine for rehearsals. -/
structure Engine where
  /-- The time. -/
  now : Timestamp
  /-- The settings. -/
  settings : WorkflowSettings := {}
  /-- The registry. -/
  registry : Registry := {}
  /-- The records. -/
  archive : Archive := []
  /-- The event bus, if there is one. -/
  bus : Option (Bus Listener) := none
  /-- The actions. -/
  actions : Catalog String (List ActionEffect) := []
  /-- The services. -/
  services : Services := .overHttp []
  /-- What every transform produces, when it is scripted. -/
  transformed : Option (Except Failure Value) := none
  /-- What sending a message results in. -/
  delivery : Except Failure Bool := .ok true
  /-- The faults. -/
  faults : List EngineFault := []
  /-- The events that were heard. -/
  events : List Event := []
  /-- The actions that were run, with what they were handed. -/
  performed : List (String × Value.Fields) := []
  /-- The messages that were sent. -/
  sent : List Value := []
  /-- The calls on scripted services. -/
  called : List Value := []
  /-- The requests that were made. -/
  requests : List HttpRequest := []
  /-- The seconds of the rests that were made. -/
  rests : List Binary64 := []

namespace Engine

/-- Counts a call of a method, and tells whether it fails. -/
def disturbed (m : EngineMethod) (e : Engine) : Option Failure × Engine :=
  -- Every call counts, also those that the fault lets pass.
  let faults := e.faults.map fun f => if f.method = m then { f with count := f.count + 1 } else f
  let failing := faults.find? fun f => f.method = m && f.turns.includes f.count
  (failing.map (·.failure), { e with faults := faults })

/-- The reply to a call of a method, unless a fault answers it. -/
def guarded {α : Type} (m : EngineMethod) (reply : Engine → Except Failure α × Engine)
    (e : Engine) : Except Failure α × Engine :=
  match e.disturbed m with
  | (some f, e) => (.error f, e)
  | (none, e) => reply e

/-- Looks a workflow up. -/
def findWorkflow (id : Value) : Engine → Except Failure (Option Workflow) × Engine :=
  guarded .workflow fun e => (id.entryOf e.registry.workflows, e)

/-- Looks a form up. -/
def findForm (id : Value) : Engine → Except Failure (Option Form) × Engine :=
  guarded .form fun e => (id.entryOf e.registry.forms, e)

/-- Looks an endpoint up. -/
def findEndpoint (id : Value) : Engine → Except Failure (Option Endpoint) × Engine :=
  guarded .endpoint fun e => (id.entryOf e.registry.endpoints, e)

/-- Looks the record of an execution up. -/
def findRecord (id : Value) : Engine → Except Failure (Option ExecutionRecord) × Engine :=
  guarded .record fun e => (id.entryOf e.archive, e)

/-- What a handler does with an event. -/
def hear (event : Event) : Bus.Reaction Listener (List Event) := fun l (heard, bus) =>
  ((heard ++ [event], bus), l.failure)

/-- Publishes an event to the handlers of the bus, if there is a bus. -/
def publish (event : Event) (e : Engine) : Except Failure Unit × Engine :=
  match e.bus with
  | none => (.ok (), e)
  | some bus =>
    e.guarded .publish fun e =>
      let (heard, bus) := Bus.publish (hear event) event.name e.events bus
      (.ok (), { e with events := heard, bus := some bus })

/-- Runs the action of a name. An action that is not known does nothing. -/
def act (name : String) (params : Value.Fields) (e : Engine) : ContextReply Unit × Engine :=
  match e.actions.get? name with
  | some effects => (perform effects, { e with performed := e.performed ++ [(name, params)] })
  | none => ({ result := .ok () }, e)

/-- What a script answers at an endpoint. -/
def scriptedReply (replies : Catalog String (Except Failure Value)) (endpoint : Value) :
    Except Failure Value := do
  (← endpoint.entryOf replies).getD (.ok .null)

/-- Calls the service at an endpoint. -/
def callService (endpoint : Value) (context : Context) (options : Value.Fields) (e : Engine) :
    Except Failure Value × Engine :=
  match e.services with
  | .scripted replies =>
    let call := Value.object [("endpoint", endpoint), ("context", .object context),
      ("config", .object options)]
    (scriptedReply replies endpoint, { e with called := e.called ++ [call] })
  | .overHttp table =>
    match Service.request e.settings.apiTimeout endpoint context options with
    | .error f => (.error f, e)
    | .ok request =>
      let reply := table.reply request.url
      (reply.bind (Service.answer endpoint options),
        { e with requests := e.requests ++ [request] })

/-- Sends a message. -/
def send (channel : String) (options : Value.Fields) (e : Engine) : Except Failure Bool × Engine :=
  let message := Value.object [("channel", .text channel), ("config", .object options)]
  (e.delivery, { e with sent := e.sent ++ [message] })

/-- What the collaborators of nodes reply. Only actions write on the context, and what is produced
can be read to its end. -/
def respondNode : Program.Responder NodeCall NodeCall.Reply Engine
  | .act name params _, e => e.act name params
  | .service endpoint context options, e =>
    let (produced, e) := e.callService endpoint context options
    ({ result := produced.map .whole }, e)
  | .transform spec context, e =>
    let produced := e.transformed.getD ((Transform.apply spec context).map .object)
    ({ result := produced.map .whole }, e)
  | .send channel options _, e =>
    let (delivered, e) := e.send channel options
    ({ result := delivered }, e)
  | .rest seconds, e => (.ok (), { e with rests := e.rests ++ [seconds] })

/-- What the engine replies. -/
def respond : Program.Responder EngineCall EngineCall.Reply Engine
  | .workflow id, e => e.findWorkflow id
  | .form id, e => e.findForm id
  | .endpoint id, e => e.findEndpoint id
  | .issue kind, e =>
    let (id, registry) := e.registry.issue kind
    (id, { e with registry := registry })
  | .node c, e => respondNode c e
  | .keep r, e => e.guarded .keep fun e => (.ok (), { e with archive := e.archive.keep r })
  | .publish event, e => e.publish event

/-- Runs a program on the engine. -/
def perform {α : Type} (p : EngineProgram α) (e : Engine) : α × Engine := p.run respond e

/-- Registers definitions up to the first that is refused. -/
def load (definitions : Registry.Definitions) (e : Engine) : Except Failure Unit × Engine :=
  let (result, registry) := (Registry.load e.now definitions).perform e.registry
  (result, { e with registry := registry })

end Engine

end Fulfilment.Rehearsal
