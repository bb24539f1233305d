import Fulfilment.Bus
import Fulfilment.Proofs.Itinerary
import Mathlib.Data.List.Chain

/-!
# The reports of an execution agree

An execution is reported three times: by the events that are published about it, by the record that
is kept of it, and by the result that its starter gets. The three are made in different places, but
whatever the collaborators of the engine do, and however the subscribers of the bus fail, they say
the same. They do so to a different extent: the event of the end tells how the walk stopped and at
which node, and only the record and the result tell which node was missing.

## Main definitions

* `Collaborators`, `EngineRoom` - an engine with an archive in memory and a bus, whose other
  collaborators do as they please
* `Workflow.Leads` - whether a walk goes from one stop to another
* `Stop.outcome` - how a walk stops at a node
* `Workflow.Ended`, `Workflow.Reported` - whether the reports of an execution agree
* `Accounted` - what comes of an execution, by what the registry replies

## Main results

* `Workflow.Itinerary.isChain`, `Workflow.Itinerary.stopped_at` - the order of the stops, and the
  last of them
* `execute_reports` - every execution ends with reports that agree
-/

namespace Fulfilment

open Program

/-! ### The stops in order -/

/-- Whether a walk goes from one stop to another: the first names the node of the second, and this
node is the first one of its name. -/
def Workflow.Leads (w : Workflow) (t u : Stop) : Prop :=
  t.next? = some u.node.id ∧ w.find? u.node.id = some u.node

/-- How a walk stops at a node. -/
def Stop.outcome (t : Stop) : Outcome :=
  if t.node.kind = .finish then .completed t.node.id else .truncated t.node.id t.next?

theorem Stop.node_outcome (t : Stop) : t.outcome.node = t.node.id := by
  unfold Stop.outcome
  split <;> rfl

/-- The event of the end does not tell which node was missing. -/
theorem Stop.payload_outcome (t : Stop) : (Happening.finished (.stopped t.outcome)).payload =
    ([("status", .text "completed"), ("outcome", .text t.outcome.kind.word),
      ("node_id", .text t.node.id)] : Value.Fields) := by
  rw [← t.node_outcome]
  rfl

/-- A visit completes the walk at an end node, and at no other. -/
theorem Node.Stay.complete_iff {settings : WorkflowSettings} {n : Node} {context : Context}
    {calls : List NodeEvent} {visit : Visit} {next : Next}
    (h : n.Stay settings context calls visit) (goes : visit.next = .ok next) :
    next = .complete ↔ n.kind = .finish := by
  cases h with
  | passed kind => rcases kind with kind | kind <;> cases goes <;> simp [kind]
  | finished kind =>
    cases goes
    simp [kind]
  | idle option kind missing =>
    rcases kind with ⟨kind, -⟩ | ⟨kind, -⟩ | ⟨kind, -⟩ <;> cases goes <;> simp [kind]
  | acted kind =>
    obtain rfl := Node.next_afterCall goes
    simp [kind]
  | decided kind =>
    rcases held : Condition.holds (n.option "condition") context with f | (_ | _) <;>
      rw [held] at goes <;> cases goes <;> simp [kind]
  | served kind | transformed kind =>
    obtain rfl := Node.next_merge goes
    simp [kind]
  | messaged kind =>
    obtain rfl := Node.next_afterCall goes
    rcases kind with kind | kind <;> simp [kind]
  | unreadable kind invalid => cases goes
  | rested kind =>
    obtain rfl := Node.next_afterCall goes
    simp [kind]

namespace Workflow

variable {w : Workflow} {settings : WorkflowSettings} {visits : Nat} {n m : Node}
  {context : Context} {t : Stop} {ts : List Stop} {failing : Option Stop} {reached : WalkEnd}
  {next : Next} {outcome : Outcome}

/-- A walk goes on at the first node of the name that the last visit gave. -/
theorem successor_eq_inr (h : w.successor n next = .inr m) :
    next.target? = some m.id ∧ w.find? m.id = some m := by
  match next, h with
  | .goOn (some target), h =>
    cases found : w.find? target with
    | none => simp [successor, found] at h
    | some k =>
      obtain rfl : k = m := by simpa [successor, found] using h
      have named : k.id = target := by simpa using List.find?_some found
      exact ⟨by simp [Next.target?, named], named ▸ found⟩

/-- A walk stops where the last visit completed it, or gave no name, or one that no node has. -/
theorem successor_eq_inl (genuine : t.Genuine settings) (goes : t.visit.next = .ok next)
    (h : w.successor t.node next = .inl outcome) :
    outcome = t.outcome ∧ ∀ id ∈ t.next?, w.find? id = none := by
  have complete := genuine.complete_iff goes
  have target := Stop.next?_of_ok goes
  match next, h with
  | .complete, h =>
    cases h
    have kind := complete.mp rfl
    simp [Stop.outcome, kind, target, Next.target?]
  | .goOn none, h =>
    cases h
    have kind : t.node.kind ≠ .finish := fun same => by simpa using complete.mpr same
    simp [Stop.outcome, kind, target, Next.target?]
  | .goOn (some id), h =>
    have kind : t.node.kind ≠ .finish := fun same => by simpa using complete.mpr same
    cases missing : w.find? id with
    | some k => simp [successor, missing] at h
    | none =>
      obtain rfl : Outcome.truncated t.node.id (some id) = outcome := by
        simpa [successor, missing] using h
      simp [Stop.outcome, kind, target, Next.target?, missing]

namespace Itinerary

theorem head (h : w.Itinerary settings visits n context ts failing reached) :
    ∀ t ∈ ts.head?, t.node = n := by
  cases h <;> simp

/-- Each stop leads to the one after it. -/
theorem isChain (h : w.Itinerary settings visits n context ts failing reached) :
    ts.IsChain w.Leads := by
  induction h with
  | exhausted => simp
  | failed => simp
  | stopped => simp
  | onward genuine goes leads rest ih =>
    refine List.isChain_cons.mpr ⟨fun u first => ?_, ih⟩
    obtain ⟨named, found⟩ := successor_eq_inr leads
    rw [← rest.head u first] at named found
    exact ⟨(Stop.next?_of_ok goes).trans named, found⟩

/-- A walk that stops does so at its last stop, where its visit leads nowhere. -/
theorem stopped_at (h : w.Itinerary settings visits n context ts failing reached)
    (stopped : reached.2 = .ok outcome) :
    failing = none ∧ ∃ t, ts.getLast? = some t ∧ outcome = t.outcome ∧
      ∀ id ∈ t.next?, w.find? id = none := by
  induction h with
  | exhausted => cases stopped
  | failed => cases stopped
  | stopped genuine goes stops =>
    cases stopped
    obtain ⟨same, missing⟩ := successor_eq_inl genuine goes stops
    exact ⟨rfl, _, rfl, same, missing⟩
  | onward genuine goes leads rest ih =>
    obtain ⟨unfailing, t, last, at_last⟩ := ih stopped
    exact ⟨unfailing, t, by simp [List.getLast?_cons, last], at_last⟩

end Itinerary

namespace Traversal

theorem head (h : w.Traversal settings context ts failing reached) :
    ∀ t ∈ ts.head?, w.starts = [t.node] := by
  cases h with
  | unstarted => simp
  | walked only itinerary =>
    intro t first
    rw [only, itinerary.head t first]

theorem isChain (h : w.Traversal settings context ts failing reached) : ts.IsChain w.Leads := by
  cases h with
  | unstarted => simp
  | walked only itinerary => exact itinerary.isChain

theorem stopped_at (h : w.Traversal settings context ts failing reached)
    (stopped : reached.2 = .ok outcome) :
    failing = none ∧ ∃ t, ts.getLast? = some t ∧ outcome = t.outcome ∧
      ∀ id ∈ t.next?, w.find? id = none := by
  cases h with
  | unstarted => cases stopped
  | walked only itinerary => exact itinerary.stopped_at stopped

end Traversal

/-! ### Reports that agree -/

/-- How the reports tell the end of an execution: what the record concludes, what the last event
tells, and what the starter gets. -/
inductive Ended (w : Workflow) (ts : List Stop) (record : ExecutionRecord) :
    Value.Fields → ExecutionResult → Prop
  /-- The walk stopped at the last visited node. All reports say that it is completed, how it
  stopped, and at which node; the record and the result also say which node was missing. -/
  | stopped {t : Stop} (last : ts.getLast? = some t) (missing : ∀ id ∈ t.next?, w.find? id = none)
      (completed : record.conclusion.status = .completed)
      (concluded : record.conclusion = .stopped t.outcome) :
      Ended w ts record
        [("status", .text "completed"), ("outcome", .text t.outcome.kind.word),
          ("node_id", .text t.node.id)]
        (.stopped record.execution record.context t.outcome)
  /-- The walk failed. All reports say so, with the same message. -/
  | failed {message : String} (failed : record.conclusion.status = .failed)
      (concluded : record.conclusion = .failed message) :
      Ended w ts record [("status", .text "failed"), ("error", .text message)]
        (.failed record.execution message)

/-- Whether the reports of an execution agree: the events that were published about it, the record
that was kept of it, and the result that its starter got, given the nodes that were visited. -/
structure Reported (w : Workflow) (ts : List Stop) (es : List Event) (record : ExecutionRecord)
    (result : ExecutionResult) : Prop where
  /-- The events are one for the beginning, one for each visited node in order, and one for the
  end. -/
  happenings : es.map Event.happening =
    .started w.nodes.length :: ts.map Stop.happening ++ [.finished record.conclusion]
  /-- All of them bear the identifier that the starter got. -/
  identified : ∀ e ∈ es, e.execution = result.execution
  /-- The record bears this identifier too. -/
  recorded : record.execution = result.execution
  /-- The first visited node is the only start node. -/
  first : ∀ t ∈ ts.head?, w.starts = [t.node]
  /-- Each visited node leads to the next. -/
  chain : ts.IsChain w.Leads
  /-- The three reports tell the same end. -/
  ended : w.Ended ts record (Happening.finished record.conclusion).payload result

/-- Whatever the environment, an execution makes one record, and its reports agree. -/
theorem reported_of_runs {σ : Type} {env : Program.Environment EngineCall EngineCall.Reply σ}
    {s v : σ} {ms : List (Program.Moment EngineCall EngineCall.Reply σ)} {now : Timestamp}
    {asked : Value} {execution : String} {given : Context} {result : ExecutionResult}
    (h : Runs env (w.execute now settings asked execution given) s ms result v) :
    ∃ ts record, kept (events ms) = [record] ∧
      w.Reported ts (published (events ms)) record result := by
  obtain ⟨ts, failing, reached, traversal, told, -, keeps, rfl⟩ := runs_execute h
  refine ⟨ts, recordOf now asked execution reached, keeps, ?_, ?_, ?_, traversal.head,
    traversal.isChain, ?_⟩
  · simp [told, recordOf, Function.comp_def]
  · intro e mem
    simp only [told, List.mem_append, List.mem_singleton, List.mem_map] at mem
    rcases mem with (rfl | ⟨t, -, rfl⟩) | rfl <;> simp
  · simp [recordOf]
  · obtain ⟨context, f | outcome⟩ := reached
    · exact .failed rfl rfl
    · obtain ⟨-, t, last, rfl, missing⟩ := traversal.stopped_at rfl
      change w.Ended ts _ (Happening.finished (.stopped t.outcome)).payload _
      rw [t.payload_outcome]
      exact .stopped last missing rfl rfl

end Workflow

/-- What comes of an execution, by what the registry replies: the events that are published, the
records that are kept, and the result. -/
inductive Accounted :
    Except Failure (Option Workflow) → List Event → List ExecutionRecord → ExecutionResult → Prop
  /-- The registry cannot be read. -/
  | unread (f : Failure) : Accounted (.error f) [] [] (.refused f.message)
  /-- The workflow is not registered. -/
  | unregistered : Accounted (.ok none) [] [] (.refused "Workflow not found")
  /-- The workflow is executed. -/
  | executed {w : Workflow} {ts : List Stop} {es : List Event} {record : ExecutionRecord}
      {result : ExecutionResult} (reported : w.Reported ts es record result) :
      Accounted (.ok (some w)) es [record] result

/-- Whatever the environment, an execution with an object for its input has a result, and what comes
of it is accounted for. -/
theorem accounted_of_runs {σ : Type} {env : Program.Environment EngineCall EngineCall.Reply σ}
    {s v : σ} {ms : List (Program.Moment EngineCall EngineCall.Reply σ)} {now : Timestamp}
    {settings : WorkflowSettings} {id : Value} {given : Value.Fields}
    {a : Except Failure ExecutionResult}
    (h : Runs env (execute now settings id (.object given)) s ms a v) :
    ∃ reply u result, env s ⟨.workflow id, reply⟩ u ∧ a = .ok result ∧
      Accounted reply (published (events ms)) (kept (events ms)) result := by
  obtain ⟨reply, u, ms, answered, rest, rfl⟩ := runs_call_iff.mp h
  refine ⟨reply, u, ?_⟩
  rcases reply with f | (_ | w)
  case error =>
    obtain ⟨rfl, rfl, rfl⟩ := runs_done_iff.mp rest
    exact ⟨_, answered, rfl, .unread f⟩
  case ok.none =>
    obtain ⟨rfl, rfl, rfl⟩ := runs_done_iff.mp rest
    exact ⟨_, answered, rfl, .unregistered⟩
  case ok.some =>
    obtain ⟨execution, x, ms, -, issued, rfl⟩ := runs_call_iff.mp rest
    simp only [Value.membersOrNone_object] at issued
    obtain ⟨result, executed, rfl⟩ := runs_map_iff.mp issued
    obtain ⟨ts, record, keeps, reported⟩ := Workflow.reported_of_runs executed
    refine ⟨result, answered, rfl, ?_⟩
    -- Looking the workflow up and issuing an identifier publish and keep nothing.
    change Accounted _ (published (events ms)) (kept (events ms)) result
    rw [keeps]
    exact .executed reported

/-! ### An engine with an archive and a bus -/

/-- What the collaborators of an engine do out of a state of their own. Nothing is known of them:
they may fail, and what they reply may depend on everything that they were asked before. The
handlers of events may besides subscribe others. -/
structure Collaborators (η κ : Type) where
  /-- Looks a workflow up. -/
  workflow : Value → κ → Except Failure (Option Workflow) × κ
  /-- Looks a form up. -/
  form : Value → κ → Except Failure (Option Form) × κ
  /-- Looks an endpoint up. -/
  endpoint : Value → κ → Except Failure (Option Endpoint) × κ
  /-- Issues an identifier for a thing of a kind. -/
  issue : String → κ → String × κ
  /-- Replies to visited nodes. -/
  node : Program.Responder NodeCall NodeCall.Reply κ
  /-- What a handler does with an event. -/
  react : Event → Bus.Reaction η κ

/-- The state of an engine: that of its collaborators, the archive of its records, and its bus. -/
structure EngineRoom (η κ : Type) where
  /-- The state of the collaborators. -/
  hidden : κ
  /-- The records. -/
  archive : Archive := []
  /-- The event bus. -/
  bus : Bus η := {}

namespace Collaborators

variable {η κ α : Type} (k : Collaborators η κ)

/-- What an engine replies whose archive is kept in memory and whose events go to a bus. -/
def respond : Program.Responder EngineCall EngineCall.Reply (EngineRoom η κ)
  | .workflow id, s => ((k.workflow id s.hidden).1, { s with hidden := (k.workflow id s.hidden).2 })
  | .form id, s => ((k.form id s.hidden).1, { s with hidden := (k.form id s.hidden).2 })
  | .endpoint id, s => ((k.endpoint id s.hidden).1, { s with hidden := (k.endpoint id s.hidden).2 })
  | .issue kind, s => ((k.issue kind s.hidden).1, { s with hidden := (k.issue kind s.hidden).2 })
  | .node c, s => ((k.node c s.hidden).1, { s with hidden := (k.node c s.hidden).2 })
  | .keep r, s => (.ok (), { s with archive := s.archive.keep r })
  | .publish e, s =>
    let after := Bus.publish (k.react e) e.name s.hidden s.bus
    (.ok (), { s with hidden := after.1, bus := after.2 })

/-- What is in the archive after a program is what was there before and what was kept meanwhile. -/
theorem archive_run (p : EngineProgram α) (s : EngineRoom η κ) :
    (p.run k.respond s).2.archive = (kept (p.trace k.respond s)).foldl Archive.keep s.archive := by
  induction p generalizing s with
  | done a => rfl
  | call c next ih =>
    rw [run_call, ih, Program.trace]
    cases c <;> rfl

end Collaborators

/-- A record under a new identifier is added to the archive. -/
theorem Archive.keep_of_new {a : Archive} {r : ExecutionRecord} (new : a.find? r.execution = none) :
    a.keep r = a ++ [(r.execution, r)] :=
  Catalog.put_of_get?_eq_none new r

/-- **Every execution ends with reports that agree.** Whatever is registered and whatever the
collaborators and the subscribers do, an execution has a result. When no workflow is found, nothing
is published and nothing is kept. Otherwise the reports agree, and exactly one record is kept, under
the identifier in the result; it is added to the archive where this identifier is new. -/
theorem execute_reports {η κ : Type} (k : Collaborators η κ) (now : Timestamp)
    (settings : WorkflowSettings) (id : Value) (given : Value.Fields) (s : EngineRoom η κ) :
    let program := execute now settings id (.object given)
    let es := program.trace k.respond s
    let after := (program.run k.respond s).2
    ∃ result, (program.run k.respond s).1 = .ok result ∧
      Accounted (k.workflow id s.hidden).1 (published es) (kept es) result ∧
      after.archive = (kept es).foldl Archive.keep s.archive ∧
      ∀ record, kept es = [record] → s.archive.find? record.execution = none →
        after.archive = s.archive ++ [(record.execution, record)] := by
  intro program es after
  obtain ⟨ms, run, traced⟩ := runs_run k.respond program s
  obtain ⟨reply, u, result, answered, ok, accounted⟩ := accounted_of_runs run
  obtain rfl : (k.workflow id s.hidden).1 = reply := congrArg Prod.fst answered
  have archived : after.archive = (kept es).foldl Archive.keep s.archive := k.archive_run program s
  rw [traced] at accounted
  refine ⟨result, ok, accounted, archived, fun record only new => ?_⟩
  rw [archived, only]
  exact Archive.keep_of_new new

/-- The workflow whose start node leads to a node that is not there. -/
def Workflow.dangling : Workflow where
  id := "wf-1"
  name := "Dangling"
  description := none
  nodes := [{ id := "start", kind := .start, label := "", config := [],
              connections := { next := some "ghost" }, rawKind := none }]
  presets := []
  trigger := none
  createdAt := none
  updatedAt := none

/-- Collaborators among which one workflow is registered, and which do nothing else. -/
def Collaborators.idle (w : Workflow) : Collaborators Unit Unit where
  workflow _ s := (.ok (some w), s)
  form _ s := (.ok none, s)
  endpoint _ s := (.ok none, s)
  issue kind s := (kind ++ "_1", s)
  node c s := match c with
    | .act .. => ({ result := .ok () }, s)
    | .service .. | .transform .. => ({ result := .ok (.whole .null) }, s)
    | .send .. => ({ result := .ok true }, s)
    | .rest _ => (.ok (), s)
  react _ _ room := (room, none)

/-- The reports do not agree on the missing node: the record and the result name it, and the event
of the end does not. -/
theorem finished_dangling :
    let program := execute default {} "wf-1" (.object [])
    let es := program.trace (Collaborators.idle .dangling).respond { hidden := () }
    (program.run (Collaborators.idle .dangling).respond { hidden := () }).1.toOption.bind
        ExecutionResult.outcome? = some (.truncated "start" (some "ghost")) ∧
      (kept es).map (·.conclusion) = [.stopped (.truncated "start" (some "ghost"))] ∧
      ∃ e, (published es).getLast? = some e ∧ e.name = "workflow.finished" ∧
        Catalog.get? e.happening.payload "missing_target" = none :=
  ⟨rfl, rfl, _, rfl, rfl, rfl⟩

end Fulfilment
