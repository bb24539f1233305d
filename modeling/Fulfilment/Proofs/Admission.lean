import Fulfilment.Intake.Invocation
import Fulfilment.Proofs.Reports
import Fulfilment.Registry

/-!
# Admission to endpoints

An endpoint that asks for authentication refuses a request without an authorization before it does
anything else: the lookup of the endpoint is the only call that is made. A request with an
authorization is handled as if the endpoint did not ask. The reason is that the endpoint is looked
up once, at the beginning, and nothing that a handler does comes back to it.

## Main definitions

* `EngineCall.IsHandling` - the calls that are made while a request is handled
* `Registry.engine` - an engine whose definitions are in a registry
* `Registry.unlocked` - a registry in which an endpoint does not ask for authentication

## Main results

* `asks_execute`, `asks_submit`, `Endpoint.asks_handle` - no endpoint is looked up while a request
  is handled
* `invoke_locked` - what an endpoint that asks for authentication does with a request
-/

namespace Fulfilment

open Program

variable {α κ : Type} {now : Timestamp} {settings : WorkflowSettings}

/-! ### Calls while a request is handled -/

/-- Whether a call may be made while a request is handled: it does not look an endpoint up. -/
def EngineCall.IsHandling : EngineCall → Prop
  | .endpoint _ => False
  | _ => True

theorem asks_inEngine {kind : EngineCall → Prop} (nodes : ∀ c, kind (.node c))
    (p : NodeProgram α) : p.inEngine.Asks kind := by
  induction p with
  | done a => trivial
  | call c next ih => exact ⟨nodes c, ih⟩

namespace Workflow

theorem asks_walk (w : Workflow) (execution : String) (visits : Nat) (n : Node)
    (context : Context) :
    (w.walk now settings execution visits n context).Asks EngineCall.IsHandling := by
  induction visits generalizing n context with
  | zero => trivial
  | succ visits ih =>
    refine asks_bind (asks_inEngine (fun _ => trivial) _) fun visit => ?_
    split
    · trivial
    · refine asks_bind ⟨trivial, fun _ => trivial⟩ fun _ => ?_
      split
      · trivial
      · exact ih _ _

theorem asks_execute (w : Workflow) (asked : Value) (execution : String) (given : Context) :
    (w.execute now settings asked execution given).Asks EngineCall.IsHandling := by
  refine asks_bind ⟨trivial, fun _ => trivial⟩ fun _ => asks_bind ?_ fun _ => ?_
  · unfold traverse
    split
    · exact asks_walk w execution _ _ _
    · trivial
  · exact ⟨trivial, fun _ => ⟨trivial, fun _ => trivial⟩⟩

end Workflow

/-- Executing a workflow looks no endpoint up. -/
theorem asks_execute (id input : Value) :
    (execute now settings id input).Asks EngineCall.IsHandling := by
  refine ⟨trivial, fun reply => ?_⟩
  rcases reply with f | (_ | w)
  · trivial
  · trivial
  · refine ⟨trivial, fun execution => ?_⟩
    dsimp only
    split
    · trivial
    · exact asks_map (w.asks_execute id execution _)

/-- Submitting a form looks no endpoint up. -/
theorem asks_submit (id data : Value) :
    (submit now settings id data).Asks EngineCall.IsHandling := by
  refine ⟨trivial, fun reply => ?_⟩
  rcases reply with f | (_ | form)
  · trivial
  · trivial
  · dsimp only
    split
    · trivial
    split
    · exact asks_map (asks_execute _ _)
    · trivial

/-- Handling a request looks no endpoint up. -/
theorem Endpoint.asks_handle (e : Endpoint) (r : Request) (body : Value.Fields) :
    (e.handle now settings r body).Asks EngineCall.IsHandling := by
  unfold handle
  split
  · split
    · trivial
    · exact asks_map (asks_execute _ _)
  · exact asks_map (asks_submit _ _)
  · trivial

/-! ### The registry of an engine -/

/-- What an engine replies whose definitions are in a registry. The others whom the engine calls on
reply out of a state of their own, and do not touch the registry. -/
def Registry.engine (others : Responder EngineCall EngineCall.Reply κ) :
    Responder EngineCall EngineCall.Reply (Registry × κ)
  | .workflow id, s => (id.entryOf s.1.workflows, s)
  | .form id, s => (id.entryOf s.1.forms, s)
  | .endpoint id, s => (id.entryOf s.1.endpoints, s)
  | .issue kind, s => ((s.1.issue kind).1, (s.1.issue kind).2, s.2)
  | .node c, s => ((others (.node c) s.2).1, s.1, (others (.node c) s.2).2)
  | .keep r, s => ((others (.keep r) s.2).1, s.1, (others (.keep r) s.2).2)
  | .publish e, s => ((others (.publish e) s.2).1, s.1, (others (.publish e) s.2).2)

/-- An endpoint that does not ask for authentication. -/
def Endpoint.unlocked (e : Endpoint) : Endpoint := { e with authentication := none }

/-- A registry in which an endpoint does not ask for authentication. -/
def Registry.unlocked (id : String) (r : Registry) : Registry :=
  { r with endpoints := r.endpoints.modify id Endpoint.unlocked }

/-- Nobody but who looks an endpoint up notices that one does not ask for authentication. -/
theorem Registry.engine_unlocked (others : Responder EngineCall EngineCall.Reply κ) (id : String)
    (c : EngineCall) (s : Registry × κ) (handling : c.IsHandling) :
    engine others c (s.1.unlocked id, s.2) =
      ((engine others c s).1, (engine others c s).2.1.unlocked id, (engine others c s).2.2) := by
  cases c with
  | endpoint id => exact handling.elim
  | _ => rfl

/-! ### Requests -/

/-- The headers of a request as texts with their values, in order; without headers there is no
mapping, or an empty one. -/
def Request.HasHeaders (r : Request) (headers : List (String × Value)) : Prop :=
  r.headers = .object (headers.map fun h => (.text h.1, h.2)) ∨ headers = [] ∧ r.headers = .null

theorem Request.headerFields_of_hasHeaders {r : Request} {headers : List (String × Value)}
    (given : r.HasHeaders headers) :
    r.headerFields = .ok (headers.map fun h => (.text h.1, h.2)) := by
  rcases given with mapping | ⟨rfl, none⟩
  · cases headers with
    | nil => simp [headerFields, mapping, Value.truthy]
    | cons h hs => simp [headerFields, mapping, Value.truthy]
  · simp [headerFields, none, Value.truthy]

/-- The last header of a name counts, whatever letters it is written with. -/
theorem Request.header?_texts (headers : List (String × Value)) (name : String) :
    header? (headers.map fun h => (.text h.1, h.2)) name =
      (headers.filter fun h => Text.lower h.1 = name).getLast?.map (·.2) := by
  rw [header?, ← List.map_reverse, List.find?_map, Option.map_map, List.getLast?_eq_head?_reverse,
    ← List.filter_reverse, List.head?_filter]
  rfl

/-- Whether some headers carry an authorization: the last one of this name is not empty. -/
def Request.Authorizes (headers : List (String × Value)) : Prop :=
  ∃ h, (headers.filter fun h => Text.lower h.1 = "authorization").getLast? = some h ∧
    h.2.truthy = true

theorem Request.areAuthorized_iff (headers : List (String × Value)) :
    areAuthorized (headers.map fun h => (.text h.1, h.2)) = true ↔ Authorizes headers := by
  rw [areAuthorized, header?_texts, Authorizes]
  cases (headers.filter fun h => Text.lower h.1 = "authorization").getLast? with
  | none => simp [Value.truthy]
  | some h => simp

/-! ### Locked endpoints -/

namespace Endpoint

variable {e : Endpoint} {r : Request} {fields : Value.Fields}

/-- A request that is not admitted is refused, whatever else it says. -/
theorem serve_of_not_admits (read : r.headerFields = .ok fields)
    (refused : e.admits fields = false) :
    e.serve now settings r = .done (.ok (.wrong 401 "Authentication required")) := by
  simp [serve, read, refused]

/-- A request that is admitted is handled as if the endpoint did not ask for authentication. -/
theorem serve_of_admits (read : r.headerFields = .ok fields) (admitted : e.admits fields = true) :
    e.serve now settings r = e.unlocked.serve now settings r := by
  have open_ : e.unlocked.admits fields = true := rfl
  simp only [serve, read, admitted, open_]
  rfl

/-- Serving a request looks no endpoint up. -/
theorem asks_serve (e : Endpoint) (r : Request) :
    (e.serve now settings r).Asks EngineCall.IsHandling := by
  unfold serve
  split
  · trivial
  split
  · split
    · trivial
    · exact asks_map (e.asks_handle r _)
  · trivial

end Endpoint

/-- The endpoint of an identifier answers the request. -/
theorem invoke_registered (others : Responder EngineCall EngineCall.Reply κ) (now : Timestamp)
    (settings : WorkflowSettings) {r : Registry} {id : String} {e : Endpoint}
    (registered : r.endpoints.get? id = some e) (request : Request) (k : κ) :
    let respond := Registry.engine others
    let serve := e.serve now settings request
    (invoke now settings (.text id) request).run respond (r, k) = serve.run respond (r, k) ∧
      (invoke now settings (.text id) request).trace respond (r, k) =
        ⟨.endpoint (.text id), .ok (some e)⟩ :: serve.trace respond (r, k) := by
  have found : Registry.engine others (.endpoint (.text id)) (r, k) = (.ok (some e), r, k) := by
    simp only [Registry.engine, Value.entryOf_text, registered]
  constructor
  · rw [invoke, run_call, found]
  · rw [invoke, Program.trace, found]

/-- **An endpoint that asks for authentication is locked.** Where the last authorization of a
request is empty or there is none, the answer is always the same, and nothing is done but the lookup
of the endpoint. Otherwise the answer and all that is done for it, with what it leaves behind, are
those of the endpoint that does not ask. -/
theorem invoke_locked (others : Responder EngineCall EngineCall.Reply κ) (now : Timestamp)
    (settings : WorkflowSettings) {r : Registry} {id : String} {e : Endpoint} {a : Authentication}
    (registered : r.endpoints.get? id = some e) (asks : e.authentication = some a)
    (required : a.required = true) {request : Request} {headers : List (String × Value)}
    (given : request.HasHeaders headers) (k : κ) :
    let respond := Registry.engine others
    let program := invoke now settings (.text id) request
    (¬ Request.Authorizes headers →
      program.run respond (r, k) =
        (.ok ⟨401, [("error", .text "Authentication required")]⟩, r, k) ∧
      program.trace respond (r, k) = [⟨.endpoint (.text id), .ok (some e)⟩]) ∧
    (Request.Authorizes headers → ∃ result after k' es,
      program.run respond (r, k) = (result, after, k') ∧
      program.run respond (r.unlocked id, k) = (result, after.unlocked id, k') ∧
      program.trace respond (r, k) = ⟨.endpoint (.text id), .ok (some e)⟩ :: es ∧
      program.trace respond (r.unlocked id, k) =
        ⟨.endpoint (.text id), .ok (some e.unlocked)⟩ :: es) := by
  intro respond program
  have read := Request.headerFields_of_hasHeaders given
  have admits : e.admits (headers.map fun h => (.text h.1, h.2)) =
      Request.areAuthorized (headers.map fun h => (.text h.1, h.2)) := by
    simp [Endpoint.admits, asks, required]
  obtain ⟨run, trace⟩ := invoke_registered others now settings registered request k
  constructor
  · intro unauthorized
    have refused : e.admits (headers.map fun h => (.text h.1, h.2)) = false := by
      rw [admits, ← Bool.not_eq_true, Request.areAuthorized_iff]
      exact unauthorized
    rw [e.serve_of_not_admits read refused] at run trace
    exact ⟨run, trace⟩
  · intro authorized
    have admitted := admits.trans ((Request.areAuthorized_iff headers).mpr authorized)
    have unlocked : (r.unlocked id).endpoints.get? id = some e.unlocked := by
      simp [Registry.unlocked, Catalog.get?_modify, registered]
    obtain ⟨run', trace'⟩ := invoke_registered others now settings unlocked request k
    -- After the lookup the program is the same, and the rest of it does not see the endpoints.
    rw [← e.serve_of_admits read admitted] at run' trace'
    obtain ⟨same, sameTrace⟩ := (e.asks_serve request).unnoticed
      (Registry.engine_unlocked others id) (r, k)
    exact ⟨_, _, _, _, run, run'.trans same, trace, trace'.trans (congrArg _ sameTrace)⟩

/-- An endpoint that starts a workflow and asks for authentication. -/
def Endpoint.lockedSample : Endpoint where
  id := "ep-1"
  name := "Orders"
  path := "/orders"
  method := .post
  description := none
  handler := ⟨.workflow, some "wf-1", none⟩
  authentication := some ⟨true, []⟩
  statusCode := 201
  createdAt := none
  updatedAt := none

/-- An authorization that is overwritten by an empty one is refused. The other way round it is
accepted, and then an execution is recorded, under the first identifier of the registry. -/
theorem invoke_locked_sample :
    let r : Registry :=
      { workflows := [("wf-1", .dangling)], endpoints := [("ep-1", .lockedSample)] }
    let others := (Collaborators.idle .dangling).respond
    let room : EngineRoom Unit Unit := { hidden := () }
    let headers (first second : Value) := [("Authorization", first), ("AUTHORIZATION", second)]
    let request (first second : Value) : Request :=
      { headers := .object ((headers first second).map fun h => (.text h.1, h.2)) }
    let answer (first second : Value) :=
      (invoke default {} "ep-1" (request first second)).run (Registry.engine others)
    ¬ Request.Authorizes (headers "token" "") ∧ Request.Authorizes (headers "" "token") ∧
      answer "token" "" (r, room) = (.ok ⟨401, [("error", "Authentication required")]⟩, r, room) ∧
      ∃ response after room', answer "" "token" (r, room) = (.ok response, after, room') ∧
        answer "" "token" (r.unlocked "ep-1", room) = (.ok response, after.unlocked "ep-1", room') ∧
        response.status = 201 ∧ after.issued = 1 ∧ room'.archive.length = 1 := by
  intro r others room headers request answer
  have refused : ¬ Request.Authorizes (headers "token" "") := by
    rw [← Request.areAuthorized_iff]
    decide +kernel
  have granted : Request.Authorizes (headers "" "token") := by
    rw [← Request.areAuthorized_iff]
    decide +kernel
  have registered : r.endpoints.get? "ep-1" = some .lockedSample := rfl
  have given (first second : Value) : (request first second).HasHeaders (headers first second) :=
    .inl rfl
  obtain ⟨run, -⟩ :=
    (invoke_locked others default {} registered rfl rfl (given "token" "") room).1 refused
  obtain ⟨result, after, room', -, run', run'', -⟩ :=
    (invoke_locked others default {} registered rfl rfl (given "" "token") room).2 granted
  have outcome : let reached := answer "" "token" (r, room)
      reached.1.toOption.map Response.status = some 201 ∧ reached.2.1.issued = 1 ∧
        reached.2.2.archive.length = 1 := by
    decide +kernel
  rw [show answer "" "token" (r, room) = (result, after, room') from run'] at outcome
  obtain ⟨status, issued, archived⟩ := outcome
  cases result with
  | error f => cases status
  | ok response =>
    exact ⟨refused, granted, run, response, after, room', run', run'', Option.some.inj status,
      issued, archived⟩

end Fulfilment
