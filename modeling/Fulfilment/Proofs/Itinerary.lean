import Fulfilment.Execution.Walk
import Fulfilment.Proofs.Environment

/-!
# The itinerary of an execution

What the runs of `Workflow.execute` look like in any environment. A walk comes to one node after
the other; at each it stays for one of a few reasons, calls on one collaborator at most, and leaves
writes behind. The walk ends where it stops, where a stay fails, or where no visits are left.
Whatever the collaborators reply, a run has an itinerary of this kind, so a statement about
executions is proved by induction on the itinerary.

## Main definitions

* `NodeEvent`, `EngineEvent` - the events of nodes and of the engine
* `published`, `answered`, `kept` - what is published, what the collaborators of nodes reply, and
  what is kept, among the events of the engine
* `Node.Stay` - what a visit to a node comes to
* `Stop` - a node that a walk has come to, and what happened there
* `Workflow.Itinerary`, `Workflow.Traversal` - the stops of a walk from a node, and from the start
* `Workflow.Unlimited` - whether a walk came to its end by itself

## Main results

* `Node.stay_of_runs`, `Workflow.itinerary_of_runs`, `Workflow.traversal_of_runs` - every run is of
  these forms
* `Workflow.runs_execute`, `Workflow.runs_execute_again` - what is published, replied and kept in an
  execution, and under which other limits it runs alike
-/

namespace Fulfilment

open Program

/-- A call of a visited node with its reply. -/
abbrev NodeEvent := Program.Event NodeCall NodeCall.Reply

/-- A call of the engine with its reply. -/
abbrev EngineEvent := Program.Event EngineCall EngineCall.Reply

/-- A call of a visited node, in the engine. -/
def NodeEvent.inEngine (e : NodeEvent) : EngineEvent := ⟨.node e.1, e.2⟩

/-- What an event of the engine publishes. -/
def published? : EngineEvent → Option Event
  | ⟨.publish e, _⟩ => some e
  | _ => none

/-- What the collaborators of nodes are called on for in an event of the engine. -/
def answered? : EngineEvent → Option NodeEvent
  | ⟨.node c, r⟩ => some ⟨c, r⟩
  | _ => none

/-- What is kept in an event of the engine. -/
def kept? : EngineEvent → Option ExecutionRecord
  | ⟨.keep r, _⟩ => some r
  | _ => none

/-- What is published, in order. Whether the publication succeeded does not matter. -/
def published (es : List EngineEvent) : List Event := es.filterMap published?

/-- The calls of visited nodes with their replies, in order. -/
def answered (es : List EngineEvent) : List NodeEvent := es.filterMap answered?

/-- The records that are to be kept, in order. Whether they are kept does not matter. -/
def kept (es : List EngineEvent) : List ExecutionRecord := es.filterMap kept?

section Projections

variable (es fs : List EngineEvent) (calls : List NodeEvent)

@[simp] theorem published_nil : published [] = [] := rfl

@[simp] theorem answered_nil : answered [] = [] := rfl

@[simp] theorem kept_nil : kept [] = [] := rfl

@[simp] theorem published_append : published (es ++ fs) = published es ++ published fs :=
  List.filterMap_append

@[simp] theorem answered_append : answered (es ++ fs) = answered es ++ answered fs :=
  List.filterMap_append

@[simp] theorem kept_append : kept (es ++ fs) = kept es ++ kept fs := List.filterMap_append

@[simp] theorem published_inEngine : published (calls.map NodeEvent.inEngine) = [] := by
  simp [published, published?, NodeEvent.inEngine, List.filterMap_map, Function.comp_def]

@[simp] theorem answered_inEngine : answered (calls.map NodeEvent.inEngine) = calls := by
  simp [answered, answered?, NodeEvent.inEngine, List.filterMap_map, Function.comp_def]

@[simp] theorem kept_inEngine : kept (calls.map NodeEvent.inEngine) = [] := by
  simp [kept, kept?, NodeEvent.inEngine, List.filterMap_map, Function.comp_def]

end Projections

/-- What is replied to the nodes of an execution is replied in some state. -/
theorem answered_allowed {σ : Type} {respond : Responder EngineCall EngineCall.Reply σ}
    {α : Type} {p : EngineProgram α} {s : σ} {e : NodeEvent}
    (mem : e ∈ answered (p.trace respond s)) : ∃ u, (respond (.node e.1) u).1 = e.2 := by
  obtain ⟨ms, run, traced⟩ := runs_run respond p s
  obtain ⟨event, there, same⟩ := List.mem_filterMap.mp mem
  rw [← traced] at there
  obtain ⟨u, v, allowed⟩ := run.allowed event there
  obtain ⟨call, reply⟩ := event
  cases call with
  | node c =>
    cases same
    exact ⟨u, congrArg Prod.fst allowed⟩
  | _ => cases same

variable {σ : Type} {env : Program.Environment EngineCall EngineCall.Reply σ} {s v : σ}
  {ms : List (Program.Moment EngineCall EngineCall.Reply σ)} {now : Timestamp}
  {settings : WorkflowSettings} {asked : Value} {execution : String}

/-! ### One visit -/

/-- What a visit to a node in a context comes to: the call that is made, if any, and what the visit
leaves behind. -/
inductive Node.Stay (settings : WorkflowSettings) (n : Node) (context : Context) :
    List NodeEvent → Visit → Prop where
  /-- Nothing happens at the node. -/
  | passed (kind : n.kind = .start ∨ n.kind = .unknown) : Stay settings n context [] n.pass
  /-- The walk is complete. -/
  | finished (kind : n.kind = .finish) : Stay settings n context [] { next := .ok .complete }
  /-- The option that says what to do is missing. -/
  | idle (option : String) (kind : (n.kind = .action ∧ option = "action") ∨
      (n.kind = .apiCall ∧ option = "endpoint") ∨ (n.kind = .transform ∧ option = "transform"))
      (missing : (n.option option).truthy = false) : Stay settings n context [] n.pass
  /-- An action is run. -/
  | acted (kind : n.kind = .action) (named : (n.option "action").truthy = true)
      (reply : ContextReply Unit) :
      Stay settings n context
        [⟨.act (actionOf (n.option "action")).1 (actionOf (n.option "action")).2 context, reply⟩]
        (n.afterCall reply)
  /-- A condition decides. -/
  | decided (kind : n.kind = .condition) :
      Stay settings n context [] (n.afterCondition (Condition.holds (n.option "condition") context))
  /-- A service is called. -/
  | served (kind : n.kind = .apiCall) (named : (n.option "endpoint").truthy = true)
      (reply : ContextReply Produced) :
      Stay settings n context [⟨.service (n.option "endpoint") context n.config, reply⟩]
        (n.merge reply)
  /-- The context is transformed. -/
  | transformed (kind : n.kind = .transform) (named : (n.option "transform").truthy = true)
      (reply : ContextReply Produced) :
      Stay settings n context [⟨.transform (n.option "transform") context, reply⟩] (n.merge reply)
  /-- A message is sent. -/
  | messaged (kind : n.kind = .email ∨ n.kind = .notification) (reply : ContextReply Bool) :
      Stay settings n context [⟨.send n.kind.word n.config context, reply⟩] (n.afterCall reply)
  /-- The delay cannot be read. -/
  | unreadable (kind : n.kind = .delay) {f : Failure} (invalid : n.delay settings = .error f) :
      Stay settings n context [] { next := .error f }
  /-- The walk rests. -/
  | rested (kind : n.kind = .delay) {seconds : Binary64} (valid : n.delay settings = .ok seconds)
      (reply : Except Failure Unit) :
      Stay settings n context [⟨.rest seconds, reply⟩] (n.afterCall { result := reply })

namespace Node

variable {n : Node} {context : Context} {visit : Visit} {calls : List NodeEvent}

/-- A program that makes one call and is done. -/
theorem runs_once {α : Type} {c : NodeCall} {f : c.Reply → α} {a : α}
    (h : Runs env (NodeProgram.inEngine (.call c fun r => .done (f r))) s ms a v) :
    ∃ r, a = f r ∧ events ms = [NodeEvent.inEngine ⟨c, r⟩] := by
  obtain ⟨r, u, ns, -, rest, rfl⟩ := runs_call_iff.mp h
  obtain ⟨rfl, rfl, rfl⟩ := runs_done_iff.mp rest
  exact ⟨r, rfl, rfl⟩

theorem stay_of_runs (h : Runs env (n.visit settings context).inEngine s ms visit v) :
    ∃ calls, n.Stay settings context calls visit ∧ events ms = calls.map NodeEvent.inEngine := by
  -- Where nothing is called the run is empty; where one thing is called, `runs_once` tells it.
  unfold Node.visit at h
  cases kind : n.kind <;> simp only [kind] at h
  case start =>
    obtain ⟨rfl, rfl, rfl⟩ := runs_done_iff.mp h
    exact ⟨[], .passed (.inl kind), rfl⟩
  case unknown =>
    obtain ⟨rfl, rfl, rfl⟩ := runs_done_iff.mp h
    exact ⟨[], .passed (.inr kind), rfl⟩
  case finish =>
    obtain ⟨rfl, rfl, rfl⟩ := runs_done_iff.mp h
    exact ⟨[], .finished kind, rfl⟩
  case condition =>
    obtain ⟨rfl, rfl, rfl⟩ := runs_done_iff.mp h
    exact ⟨[], .decided kind, rfl⟩
  case action =>
    split at h
    case isTrue named =>
      obtain ⟨r, rfl, told⟩ := runs_once h
      exact ⟨_, .acted kind named r, told⟩
    case isFalse missing =>
      obtain ⟨rfl, rfl, rfl⟩ := runs_done_iff.mp h
      exact ⟨[], .idle "action" (.inl ⟨kind, rfl⟩) (by simpa using missing), rfl⟩
  case apiCall =>
    split at h
    case isTrue named =>
      obtain ⟨r, rfl, told⟩ := runs_once h
      exact ⟨_, .served kind named r, told⟩
    case isFalse missing =>
      obtain ⟨rfl, rfl, rfl⟩ := runs_done_iff.mp h
      exact ⟨[], .idle "endpoint" (.inr (.inl ⟨kind, rfl⟩)) (by simpa using missing), rfl⟩
  case transform =>
    split at h
    case isTrue named =>
      obtain ⟨r, rfl, told⟩ := runs_once h
      exact ⟨_, .transformed kind named r, told⟩
    case isFalse missing =>
      obtain ⟨rfl, rfl, rfl⟩ := runs_done_iff.mp h
      exact ⟨[], .idle "transform" (.inr (.inr ⟨kind, rfl⟩)) (by simpa using missing), rfl⟩
  case email =>
    obtain ⟨r, rfl, told⟩ := runs_once h
    exact ⟨_, .messaged (.inl kind) r, by rw [told, kind]; rfl⟩
  case notification =>
    obtain ⟨r, rfl, told⟩ := runs_once h
    exact ⟨_, .messaged (.inr kind) r, by rw [told, kind]; rfl⟩
  case delay =>
    split at h
    case h_1 f invalid =>
      obtain ⟨rfl, rfl, rfl⟩ := runs_done_iff.mp h
      exact ⟨[], .unreadable kind invalid, rfl⟩
    case h_2 seconds valid =>
      obtain ⟨r, rfl, told⟩ := runs_once h
      exact ⟨_, .rested kind valid r, told⟩

end Node

/-! ### The stops of a walk -/

/-- A node that a walk has come to, and what happened there. -/
structure Stop where
  /-- The node. -/
  node : Node
  /-- The context in which the walk came to the node. -/
  before : Context
  /-- The calls of the node with their replies. -/
  calls : List NodeEvent
  /-- What the visit left behind. -/
  visit : Visit

namespace Stop

/-- Whether this is what a visit to the node comes to. -/
def Genuine (settings : WorkflowSettings) (t : Stop) : Prop :=
  t.node.Stay settings t.before t.calls t.visit

/-- The context in which the walk left the node. -/
def after (t : Stop) : Context := t.before.afterAll t.visit.writes

/-- The name of the node at which the walk was to go on. -/
def next? (t : Stop) : Option String :=
  match t.visit.next with
  | .ok next => next.target?
  | .error _ => none

/-- What is announced of the node when it was visited. -/
def happening (t : Stop) : Happening := .visited t.node.id t.node.kind t.next?

theorem next?_of_ok {t : Stop} {next : Next} (goes : t.visit.next = .ok next) :
    t.next? = next.target? := by
  simp [next?, goes]

end Stop

namespace Workflow

variable {w : Workflow}

/-- The stops of a walk from a node with a number of visits left, the stop at which it failed, if
any, and what the walk leaves behind. -/
inductive Itinerary (settings : WorkflowSettings) (w : Workflow) :
    Nat → Node → Context → List Stop → Option Stop → WalkEnd → Prop where
  /-- No visits are left. -/
  | exhausted (n : Node) (context : Context) :
      Itinerary settings w 0 n context [] none
        (context, .error (.visitLimit w.id settings.maxVisits n.id))
  /-- The visit fails. -/
  | failed {visits : Nat} {t : Stop} {f : Failure} (genuine : t.Genuine settings)
      (fails : t.visit.next = .error f) :
      Itinerary settings w (visits + 1) t.node t.before [] (some t) (t.after, .error f)
  /-- The walk stops at the node. -/
  | stopped {visits : Nat} {t : Stop} {next : Next} {outcome : Outcome}
      (genuine : t.Genuine settings) (goes : t.visit.next = .ok next)
      (stops : w.successor t.node next = .inl outcome) :
      Itinerary settings w (visits + 1) t.node t.before [t] none (t.after, .ok outcome)
  /-- The walk goes on at another node. -/
  | onward {visits : Nat} {t : Stop} {next : Next} {m : Node} {ts : List Stop}
      {failing : Option Stop} {reached : WalkEnd} (genuine : t.Genuine settings)
      (goes : t.visit.next = .ok next) (leads : w.successor t.node next = .inr m)
      (rest : Itinerary settings w visits m t.after ts failing reached) :
      Itinerary settings w (visits + 1) t.node t.before (t :: ts) failing reached

/-- The stops of a walk from the start node in a context. -/
inductive Traversal (settings : WorkflowSettings) (w : Workflow) (context : Context) :
    List Stop → Option Stop → WalkEnd → Prop where
  /-- There is not exactly one start node. -/
  | unstarted (none : w.starts.length ≠ 1) :
      Traversal settings w context [] .none (context, .error (.startNodes w.id w.starts.length))
  /-- The walk begins at the only start node. -/
  | walked {start : Node} {ts : List Stop} {failing : Option Stop} {reached : WalkEnd}
      (only : w.starts = [start])
      (itinerary : w.Itinerary settings settings.maxVisits start context ts failing reached) :
      Traversal settings w context ts failing reached

theorem mem_nodes_of_starts {n : Node} (only : w.starts = [n]) : n ∈ w.nodes := by
  have mem : n ∈ w.starts := by simp [only]
  exact (List.mem_filter.mp mem).1

/-- Whether a walk came to its end by itself: it stopped, or a visit failed. -/
def Unlimited (failing : Option Stop) (reached : WalkEnd) : Prop :=
  failing = none → ∃ outcome, reached.2 = .ok outcome

/-- The publication of a happening. -/
theorem runs_announce {workflow : Value} {h : Happening}
    (run : Runs env (announce now workflow execution h) s ms () v) :
    published (events ms) = [⟨execution, workflow, now, h⟩] ∧ answered (events ms) = [] ∧
      kept (events ms) = [] := by
  obtain ⟨r, u, ns, -, rest, rfl⟩ := runs_call_iff.mp run
  obtain ⟨rfl, -, rfl⟩ := runs_done_iff.mp rest
  exact ⟨rfl, rfl, rfl⟩

/-- Every run of a walk has an itinerary. Each stop but the failing one is announced, and nothing
is kept on the way. A walk that came to its end by itself runs alike with any number of visits left
that is enough for its stops. -/
theorem itinerary_of_runs {visits : Nat} {n : Node} {context : Context} {reached : WalkEnd}
    (h : Runs env (w.walk now settings execution visits n context) s ms reached v) :
    ∃ ts failing, w.Itinerary settings visits n context ts failing reached ∧
      published (events ms) = ts.map (fun t => ⟨execution, .text w.id, now, t.happening⟩) ∧
      answered (events ms) = (ts ++ failing.toList).flatMap Stop.calls ∧
      kept (events ms) = [] ∧
      (Unlimited failing reached → ∀ limit left, (ts ++ failing.toList).length ≤ left →
        Runs env (w.walk now { settings with maxVisits := limit } execution left n context)
          s ms reached v) := by
  induction visits generalizing n context s ms with
  | zero =>
    obtain ⟨rfl, rfl, rfl⟩ := runs_done_iff.mp h
    refine ⟨[], none, .exhausted n context, rfl, rfl, rfl, fun unlimited => ?_⟩
    obtain ⟨outcome, stopped⟩ := unlimited rfl
    cases stopped
  | succ visits ih =>
    obtain ⟨ms₁, visit, u, ms₂, visited, after, rfl⟩ := runs_bind_iff.mp h
    obtain ⟨calls, stay, called⟩ := Node.stay_of_runs visited
    let t : Stop := ⟨n, context, calls, visit⟩
    have genuine : t.Genuine settings := stay
    rw [events_append, called]
    -- Under another limit the visit is the same, since only the delay is looked up in the settings.
    cases goes : visit.next with
    | error f =>
      simp only [goes] at after
      obtain ⟨rfl, rfl, rfl⟩ := runs_done_iff.mp after
      refine ⟨[], some t, .failed genuine goes, by simp, by simp [t], by simp, ?_⟩
      rintro - limit (_ | left) enough
      · simp at enough
      · refine visited.bind ?_
        simp only [goes]
        exact .done _ _
    | ok next =>
      simp only [goes] at after
      obtain ⟨ms₃, ⟨⟩, x, ms₄, announced, rest, rfl⟩ := runs_bind_iff.mp after
      obtain ⟨told, silent, unkept⟩ := runs_announce announced
      have happening : t.happening = .visited n.id n.kind next.target? := by
        simp [Stop.happening, Stop.next?_of_ok (t := t) goes, t]
      cases leads : w.successor n next with
      | inl outcome =>
        simp only [leads] at rest
        obtain ⟨rfl, rfl, rfl⟩ := runs_done_iff.mp rest
        refine ⟨[t], none, .stopped genuine goes leads, by simp [told, happening],
          by simp [silent, t], by simp [unkept], ?_⟩
        rintro - limit (_ | left) enough
        · simp at enough
        · refine visited.bind ?_
          simp only [goes, leads]
          exact announced.bind (.done _ _)
      | inr m =>
        simp only [leads] at rest
        obtain ⟨ts, failing, itinerary, told', silent', unkept', again⟩ := ih rest
        refine ⟨t :: ts, failing, .onward genuine goes leads itinerary,
          by simp [told, told', happening], by simp [silent, silent', t], by simp [unkept, unkept'],
          ?_⟩
        rintro unlimited limit (_ | left) enough
        · simp at enough
        · refine visited.bind ?_
          simp only [goes, leads]
          exact announced.bind (again unlimited limit left (by simpa using enough))

/-- Every run from the start node has an itinerary, or there is no single start node. -/
theorem traversal_of_runs {context : Context} {reached : WalkEnd}
    (h : Runs env (w.traverse now settings execution context) s ms reached v) :
    ∃ ts failing, w.Traversal settings context ts failing reached ∧
      published (events ms) = ts.map (fun t => ⟨execution, .text w.id, now, t.happening⟩) ∧
      answered (events ms) = (ts ++ failing.toList).flatMap Stop.calls ∧
      kept (events ms) = [] ∧
      (Unlimited failing reached → ∀ limit, (ts ++ failing.toList).length ≤ limit →
        Runs env (w.traverse now { settings with maxVisits := limit } execution context)
          s ms reached v) := by
  by_cases only : w.starts.length = 1
  · obtain ⟨start, only⟩ := List.length_eq_one_iff.mp only
    simp only [traverse, only] at h ⊢
    obtain ⟨ts, failing, itinerary, told, silent, unkept, again⟩ := itinerary_of_runs h
    refine ⟨ts, failing, .walked only itinerary, told, silent, unkept, ?_⟩
    intro unlimited limit enough
    exact again unlimited limit limit enough
  · rw [traverse_of_starts_ne now settings w execution context only] at h
    obtain ⟨rfl, rfl, rfl⟩ := runs_done_iff.mp h
    refine ⟨[], none, .unstarted only, rfl, rfl, rfl, fun unlimited => ?_⟩
    obtain ⟨outcome, stopped⟩ := unlimited rfl
    cases stopped

/-- The record of an execution that has come to an end. -/
def recordOf (now : Timestamp) (asked : Value) (execution : String) (reached : WalkEnd) :
    ExecutionRecord :=
  ⟨execution, asked, reached.1, now, .ofResult reached.2⟩

theorem runs_conclude {reached : WalkEnd} {result : ExecutionResult}
    (h : Runs env (conclude now asked execution reached) s ms result v) :
    published (events ms) = [⟨execution, asked, now, .finished (.ofResult reached.2)⟩] ∧
      answered (events ms) = [] ∧ kept (events ms) = [recordOf now asked execution reached] ∧
      result = .ofConclusion execution reached.1 (.ofResult reached.2) := by
  obtain ⟨r, u, ns, -, rest, rfl⟩ := runs_call_iff.mp h
  obtain ⟨⟨⟩, announced, rfl⟩ := runs_map_iff.mp rest
  obtain ⟨told, silent, unkept⟩ := runs_announce announced
  -- The first event of the run is the keeping of the record, which publishes nothing.
  refine ⟨?_, ?_, ?_, rfl⟩
  · rw [events_cons, ← told]
    rfl
  · rw [events_cons, ← silent]
    rfl
  · rw [events_cons, ← List.singleton_append, kept_append, unkept]
    rfl

/-- What a run of an execution publishes, what the collaborators of its nodes are asked, what is
kept, and what the starter gets. An execution that came to its end by itself runs alike under any
limit that is enough for its stops. -/
theorem runs_execute_again {given : Context} {result : ExecutionResult}
    (h : Runs env (w.execute now settings asked execution given) s ms result v) :
    ∃ ts failing reached,
      w.Traversal settings (w.presets.overlay given) ts failing reached ∧
      published (events ms) = [⟨execution, asked, now, .started w.nodes.length⟩] ++
        ts.map (fun t => ⟨execution, .text w.id, now, t.happening⟩) ++
        [⟨execution, asked, now, .finished (.ofResult reached.2)⟩] ∧
      answered (events ms) = (ts ++ failing.toList).flatMap Stop.calls ∧
      kept (events ms) = [recordOf now asked execution reached] ∧
      result = .ofConclusion execution reached.1 (.ofResult reached.2) ∧
      (Unlimited failing reached → ∀ limit, (ts ++ failing.toList).length ≤ limit →
        Runs env (w.execute now { settings with maxVisits := limit } asked execution given)
          s ms result v) := by
  obtain ⟨ms₁, ⟨⟩, u, ms₂, begun, after, rfl⟩ := runs_bind_iff.mp h
  obtain ⟨ms₂, reached, x, ms₃, traversed, concluded, rfl⟩ := runs_bind_iff.mp after
  obtain ⟨told₁, silent₁, unkept₁⟩ := runs_announce begun
  obtain ⟨ts, failing, traversal, told₂, silent₂, unkept₂, again⟩ := traversal_of_runs traversed
  obtain ⟨told₃, silent₃, kept₃, same⟩ := runs_conclude concluded
  refine ⟨ts, failing, reached, traversal, ?_, ?_, ?_, same, fun unlimited limit enough => ?_⟩
  · simp [told₁, told₂, told₃]
  · simp [silent₁, silent₂, silent₃]
  · simp [unkept₁, unkept₂, kept₃]
  · exact begun.bind ((again unlimited limit enough).bind concluded)

/-- What a run of an execution publishes, what the collaborators of its nodes are asked, what is
kept, and what the starter gets. -/
theorem runs_execute {given : Context} {result : ExecutionResult}
    (h : Runs env (w.execute now settings asked execution given) s ms result v) :
    ∃ ts failing reached,
      w.Traversal settings (w.presets.overlay given) ts failing reached ∧
      published (events ms) = [⟨execution, asked, now, .started w.nodes.length⟩] ++
        ts.map (fun t => ⟨execution, .text w.id, now, t.happening⟩) ++
        [⟨execution, asked, now, .finished (.ofResult reached.2)⟩] ∧
      answered (events ms) = (ts ++ failing.toList).flatMap Stop.calls ∧
      kept (events ms) = [recordOf now asked execution reached] ∧
      result = .ofConclusion execution reached.1 (.ofResult reached.2) := by
  obtain ⟨ts, failing, reached, traversal, told, silent, keeps, same, -⟩ := runs_execute_again h
  exact ⟨ts, failing, reached, traversal, told, silent, keeps, same⟩

end Workflow

end Fulfilment
