import Fulfilment.Proofs.VisitLimit
import Mathlib.Data.List.Nodup
import Mathlib.Data.List.Perm.Subperm

/-!
# Walks that change nothing

A node that runs no action, calls no service and sets no values leaves the context as it is, unless
a sender writes on it. In a workflow of such nodes a visit to a node is always the same visit, as
long as messages go out and leave the context alone and rests end alike, and so is everything that
follows on it. A walk that came to a node twice would come to it over and over again, so a walk that
ends by itself visits no node twice, and no more nodes than there are. A walk that goes on beyond
this is cut off under every limit.

## Main definitions

* `Node.IsStill` - whether a node leaves the context as it is
* `Reliable` - messages go out and leave the context alone, and rests end alike
* `Node.usual` - the visit to such a node
* `Workflow.Limited` - whether a walk fails because no visits are left
* `Workflow.EndsItself` - the other ways in which a walk may end

## Main results

* `Workflow.Itinerary.resume` - a walk can be followed from each of its stops
* `Workflow.Itinerary.outlasts` - a walk that ends by itself goes on as long as any other
* `Workflow.Itinerary.nodup` - it visits no node twice
* `Workflow.execute_unrepeated` - executions under all limits
-/

namespace Fulfilment

open Program

/-- Whether a node leaves the context as it is: it runs no action, calls no service and sets no
values. -/
def Node.IsStill (n : Node) : Prop := n.kind ≠ .action ∧ n.kind ≠ .apiCall ∧ n.kind ≠ .transform

/-- Whether messages go out without a failure, delivered or not, and nothing is written on the
context when they do, and rests of one length always end in one way. The usual sender, which only
takes note of its messages, is of this kind, and so is the usual clock. -/
structure Reliable {σ : Type} (respond : Responder EngineCall EngineCall.Reply σ)
    (rest : Binary64 → Except Failure Unit) : Prop where
  /-- No message fails, or writes on the context. -/
  sends : ∀ channel options context s, ∃ delivered,
    (respond (.node (.send channel options context)) s).1 = { result := .ok delivered }
  /-- How a rest ends is a matter of its length. -/
  rests : ∀ seconds s, (respond (.node (.rest seconds)) s).1 = rest seconds

/-- Whether this is the reply to a node where messages go out and leave the context alone and rests
end in one way. -/
def NodeEvent.IsUsual (rest : Binary64 → Except Failure Unit) : NodeEvent → Prop
  | ⟨.send .., reply⟩ => ∃ delivered, reply = { result := .ok delivered }
  | ⟨.rest seconds, reply⟩ => reply = rest seconds
  | _ => True

/-- The visit to a node that leaves the context as it is, where messages do so too and rests end in
one way. -/
def Node.usual (settings : WorkflowSettings) (rest : Binary64 → Except Failure Unit) (n : Node)
    (context : Context) : Visit :=
  match n.kind with
  | .finish => { next := .ok .complete }
  | .condition => n.afterCondition (Condition.holds (n.option "condition") context)
  | .delay =>
    match n.delay settings with
    | .error f => { next := .error f }
    | .ok seconds => n.afterCall { result := rest seconds }
  | _ => n.pass

/-! ### One visit -/

section Visit

variable {settings : WorkflowSettings} {rest : Binary64 → Except Failure Unit} {n : Node}
  {context : Context} {calls : List NodeEvent} {visit : Visit}

theorem Node.writes_usual : (n.usual settings rest context).writes = [] := by
  unfold Node.usual
  split
  · rfl
  · rcases Condition.holds (n.option "condition") context with f | (_ | _) <;> rfl
  · split
    · rfl
    next seconds _ => rcases rest seconds with f | _ <;> rfl
  · rfl

/-- Where nothing unusual is replied, a visit depends on the node and the context alone. -/
theorem Node.Stay.eq_usual (h : n.Stay settings context calls visit) (still : n.IsStill)
    (usual : ∀ e ∈ calls, NodeEvent.IsUsual rest e) : visit = n.usual settings rest context := by
  obtain ⟨inactive, uncalled, unset⟩ := still
  cases h with
  | passed kind => rcases kind with kind | kind <;> simp [Node.usual, kind]
  | finished kind => simp [Node.usual, kind]
  | idle option kind missing =>
    rcases kind with ⟨kind, -⟩ | ⟨kind, -⟩ | ⟨kind, -⟩
    · exact absurd kind inactive
    · exact absurd kind uncalled
    · exact absurd kind unset
  | acted kind => exact absurd kind inactive
  | decided kind => simp [Node.usual, kind]
  | served kind => exact absurd kind uncalled
  | transformed kind => exact absurd kind unset
  | messaged kind reply =>
    obtain ⟨delivered, rfl⟩ := usual _ List.mem_cons_self
    rcases kind with kind | kind <;> simp only [Node.usual, kind] <;> rfl
  | unreadable kind invalid => simp [Node.usual, kind, invalid]
  | rested kind valid reply =>
    obtain rfl : reply = rest _ := usual _ List.mem_cons_self
    simp [Node.usual, kind, valid]

end Visit

theorem Reliable.isUsual {σ : Type} {respond : Responder EngineCall EngineCall.Reply σ}
    {rest : Binary64 → Except Failure Unit} (reliable : Reliable respond rest) {α : Type}
    {p : EngineProgram α} {s : σ} :
    ∀ e ∈ answered (p.trace respond s), NodeEvent.IsUsual rest e := by
  intro e mem
  obtain ⟨u, replied⟩ := answered_allowed mem
  obtain ⟨call, reply⟩ := e
  cases call with
  | send channel options context =>
    obtain ⟨delivered, sent⟩ := reliable.sends channel options context u
    exact ⟨delivered, replied.symm.trans sent⟩
  | rest seconds => exact replied.symm.trans (reliable.rests seconds u)
  | _ => trivial

namespace Workflow

variable {w : Workflow} {settings settings' : WorkflowSettings} {visits visits' : Nat}
  {n n' : Node} {context context' : Context} {ts ts' : List Stop} {failing failing' : Option Stop}
  {reached reached' : WalkEnd}

/-- Whether a walk fails because no visits are left. -/
def Limited (w : Workflow) (limit : Nat) (failing : Option Stop) (reached : WalkEnd) : Prop :=
  failing = none ∧ ∃ id, reached.2 = .error (.visitLimit w.id limit id)

/-- The ways in which a walk ends by itself. -/
inductive EndsItself (w : Workflow) (ts : List Stop) (failing : Option Stop) (reached : WalkEnd) :
    Prop where
  /-- It is complete at an end node. -/
  | completed {t : Stop} (last : ts.getLast? = some t) (unfailing : failing = none)
      (finish : t.node.kind = .finish) (ended : reached.2 = .ok (.completed t.node.id))
  /-- It is truncated, as there is no next node. -/
  | truncated {t : Stop} (last : ts.getLast? = some t) (unfailing : failing = none)
      (missing : ∀ id ∈ t.next?, w.find? id = none)
      (ended : reached.2 = .ok (.truncated t.node.id t.next?))
  /-- A node fails. -/
  | failed {t : Stop} {f : Failure} (at_node : failing = some t) (fails : t.visit.next = .error f)
      (ended : reached.2 = .error f)
  /-- There is not exactly one start node, and no node is visited. -/
  | unstarted (none : w.starts.length ≠ 1) (unvisited : ts = []) (unfailing : failing = .none)
      (ended : reached.2 = .error (.startNodes w.id w.starts.length))

namespace Itinerary

/-! ### The rest of a walk -/

/-- A walk stays among the nodes of its workflow. -/
theorem mem_nodes (h : w.Itinerary settings visits n context ts failing reached)
    (mem : n ∈ w.nodes) : ∀ t ∈ ts ++ failing.toList, t.node ∈ w.nodes := by
  induction h with
  | exhausted => simp
  | failed => simpa using mem
  | stopped => simpa using mem
  | onward genuine goes leads rest ih =>
    obtain ⟨-, found⟩ := successor_eq_inr leads
    rw [List.cons_append, List.forall_mem_cons]
    exact ⟨mem, ih (List.mem_of_find?_eq_some found)⟩

/-- A walk can be followed from each of its stops. -/
theorem resume (h : w.Itinerary settings visits n context ts failing reached) {t : Stop}
    {earlier later : List Stop} (split : ts ++ failing.toList = earlier ++ t :: later) :
    ∃ left us, w.Itinerary settings left t.node t.before us failing reached ∧
      us ++ failing.toList = t :: later := by
  induction h generalizing earlier with
  | exhausted => simp at split
  | @failed visits u f genuine fails =>
    obtain ⟨rfl, rfl, rfl⟩ : earlier = [] ∧ u = t ∧ later = [] := by
      cases earlier <;> simp_all
    exact ⟨visits + 1, [], .failed genuine fails, rfl⟩
  | @stopped visits u next outcome genuine goes stops =>
    obtain ⟨rfl, rfl, rfl⟩ : earlier = [] ∧ u = t ∧ later = [] := by
      cases earlier <;> simp_all
    exact ⟨visits + 1, [u], .stopped genuine goes stops, rfl⟩
  | @onward visits u next m us failing reached genuine goes leads rest ih =>
    cases earlier with
    | nil =>
      -- The stop is the first one, from which the walk is followed as a whole.
      rw [List.cons_append, List.nil_append, List.cons.injEq] at split
      obtain ⟨rfl, rest_eq⟩ := split
      exact ⟨visits + 1, u :: us, .onward genuine goes leads rest, by simp [rest_eq]⟩
    | cons first earlier =>
      rw [List.cons_append, List.cons_append, List.cons.injEq] at split
      exact ih split.2

/-- A walk is limited, or it came to its end by itself. -/
theorem limited_or_unlimited (h : w.Itinerary settings visits n context ts failing reached) :
    w.Limited settings.maxVisits failing reached ∨ Unlimited failing reached := by
  cases ended : reached.2 with
  | ok outcome => exact .inr fun _ => ⟨outcome, ended⟩
  | error f =>
    cases failing with
    | some t => exact .inr fun unfailing => by cases unfailing
    | none =>
      obtain ⟨-, m, rfl, -⟩ := h.cutOff_of_error rfl ended
      exact .inl ⟨rfl, m.id, ended⟩

theorem endsItself (h : w.Itinerary settings visits n context ts failing reached)
    (unlimited : Unlimited failing reached) : w.EndsItself ts failing reached := by
  induction h with
  | exhausted =>
    obtain ⟨outcome, stopped⟩ := unlimited rfl
    cases stopped
  | failed genuine fails => exact .failed rfl fails rfl
  | @stopped visits t next outcome genuine goes stops =>
    obtain ⟨rfl, missing⟩ := successor_eq_inl genuine goes stops
    by_cases finish : t.node.kind = .finish
    · exact .completed rfl rfl finish (by simp [Stop.outcome, finish])
    · exact .truncated rfl rfl missing (by simp [Stop.outcome, finish])
  | @onward visits t next m ts failing reached genuine goes leads rest ih =>
    have still_last {u : Stop} (last : ts.getLast? = some u) :
        (t :: ts).getLast? = some u := by simp [List.getLast?_cons, last]
    cases ih unlimited with
    | completed last unfailing finish ended =>
      exact .completed (still_last last) unfailing finish ended
    | truncated last unfailing missing ended =>
      exact .truncated (still_last last) unfailing missing ended
    | failed at_node fails ended => exact .failed at_node fails ended
    | unstarted none unvisited unfailing ended =>
      obtain ⟨outcome, stopped⟩ := unlimited unfailing
      rw [ended] at stopped
      cases stopped

/-! ### Walks in a context that does not change -/

/-- Where every node leaves the context as it is, each visit is the usual one in the context of the
beginning. -/
theorem visits_usual {rest : Binary64 → Except Failure Unit}
    (h : w.Itinerary settings visits n context ts failing reached)
    (still : ∀ t ∈ ts ++ failing.toList, t.node.IsStill)
    (usual : ∀ t ∈ ts ++ failing.toList, ∀ e ∈ t.calls, NodeEvent.IsUsual rest e) :
    ∀ t ∈ ts ++ failing.toList, t.before = context ∧
      t.visit = t.node.usual settings rest context := by
  induction h with
  | exhausted => simp
  | failed genuine fails =>
    simp only [List.nil_append, Option.toList_some, List.mem_singleton, forall_eq]
      at still usual ⊢
    exact ⟨trivial, Node.Stay.eq_usual genuine still usual⟩
  | stopped genuine goes stops =>
    simp only [Option.toList_none, List.append_nil, List.mem_singleton, forall_eq]
      at still usual ⊢
    exact ⟨trivial, Node.Stay.eq_usual genuine still usual⟩
  | @onward visits t next m ts failing reached genuine goes leads later ih =>
    rw [List.cons_append, List.forall_mem_cons] at still usual ⊢
    have visit := Node.Stay.eq_usual genuine still.1 usual.1
    have unchanged : t.after = t.before := by
      rw [Stop.after, visit, Node.writes_usual, Context.afterAll_nil]
    rw [unchanged] at ih
    exact ⟨⟨rfl, visit⟩, ih still.2 usual.2⟩

/-- Stops at one node go on alike where a visit depends on the node alone. -/
theorem next_congr {what : Node → Visit} {t t' : Stop} (same : t'.node = t.node)
    (visit : t.visit = what t.node) (visit' : t'.visit = what t'.node) :
    t'.visit.next = t.visit.next := by
  rw [visit', visit, same]

/-- Of two walks from one node on which a visit depends on the node alone, one that ends by itself
goes on as long as the other, and longer if the other is limited. -/
theorem outlasts {what : Node → Visit}
    (h : w.Itinerary settings visits n context ts failing reached)
    (h' : w.Itinerary settings' visits' n' context' ts' failing' reached') (same : n' = n)
    (same_visits : ∀ t ∈ ts ++ failing.toList, t.visit = what t.node)
    (same_visits' : ∀ t ∈ ts' ++ failing'.toList, t.visit = what t.node)
    (unlimited : Unlimited failing reached) :
    (ts' ++ failing'.toList).length ≤ (ts ++ failing.toList).length ∧
      ∀ limit, w.Limited limit failing' reached' →
        (ts' ++ failing'.toList).length < (ts ++ failing.toList).length := by
  -- The induction is on the walk that ends by itself; the other one follows it stop by stop.
  induction h generalizing visits' n' context' ts' failing' reached' with
  | exhausted =>
    obtain ⟨outcome, stopped⟩ := unlimited rfl
    cases stopped
  | @failed visits t f genuine fails =>
    have visit : t.visit = what t.node := same_visits t (by simp)
    cases h' with
    | exhausted => simp
    | failed => exact ⟨by simp, fun _ limited => by cases limited.1⟩
    | stopped _ goes' =>
      rw [next_congr same visit (same_visits' _ (by simp)), fails] at goes'
      cases goes'
    | onward _ goes' =>
      rw [next_congr same visit (same_visits' _ (by simp)), fails] at goes'
      cases goes'
  | @stopped visits t next outcome genuine goes stops =>
    have visit : t.visit = what t.node := same_visits t (by simp)
    cases h' with
    | exhausted => simp
    | failed => exact ⟨by simp, fun _ limited => by cases limited.1⟩
    | stopped => exact ⟨by simp, fun _ ⟨_, _, fails⟩ => by cases fails⟩
    | onward _ goes' leads' =>
      rw [next_congr same visit (same_visits' _ (by simp)), goes] at goes'
      cases goes'
      rw [same, stops] at leads'
      cases leads'
  | @onward visits t next m ts failing reached genuine goes leads rest ih =>
    have visit : t.visit = what t.node := same_visits t (by simp)
    cases h' with
    | exhausted => simp
    | failed => exact ⟨by simp, fun _ limited => by cases limited.1⟩
    | stopped => exact ⟨by simp, fun _ ⟨_, _, fails⟩ => by cases fails⟩
    | onward _ goes' leads' rest' =>
      rw [next_congr same visit (same_visits' _ (by simp)), goes] at goes'
      cases goes'
      rw [same, leads, Sum.inr.injEq] at leads'
      have later := ih rest' leads'.symm (fun u mem => same_visits u (by simp [mem]))
        (fun u mem => same_visits' u (by simp [mem])) unlimited
      simpa using later

/-- A walk on which a visit depends on the node alone visits no node twice, unless it is limited. -/
theorem nodup {what : Node → Visit}
    (h : w.Itinerary settings visits n context ts failing reached)
    (same_visits : ∀ t ∈ ts ++ failing.toList, t.visit = what t.node)
    (unlimited : Unlimited failing reached) :
    ((ts ++ failing.toList).map Stop.node).Nodup := by
  induction h with
  | exhausted => simp
  | failed => simp
  | stopped => simp
  | @onward visits t next m ts failing reached genuine goes leads rest ih =>
    rw [List.cons_append, List.forall_mem_cons] at same_visits
    rw [List.cons_append, List.map_cons, List.nodup_cons]
    refine ⟨fun again => ?_, ih same_visits.2 unlimited⟩
    -- From the second visit the walk would go on as long as from the first, which came before it.
    obtain ⟨u, mem, same⟩ := List.mem_map.mp again
    obtain ⟨earlier, later, split⟩ := List.append_of_mem mem
    obtain ⟨left, us, resumed, whole⟩ := rest.resume split
    have shorter : ∀ v ∈ us ++ failing.toList, v.visit = what v.node := by
      intro v there
      rw [whole] at there
      exact same_visits.2 v (split ▸ List.mem_append_right earlier there)
    have longer : ∀ v ∈ t :: ts ++ failing.toList, v.visit = what v.node := by
      rw [List.cons_append, List.forall_mem_cons]
      exact same_visits
    have lasting := (resumed.outlasts (.onward genuine goes leads rest) same.symm shorter
      longer unlimited).1
    rw [whole, List.cons_append, split] at lasting
    simp only [List.length_cons, List.length_append] at lasting
    omega

/-- Such a walk visits no more nodes than there are, if no two of them have one name. -/
theorem length_le_nodes {what : Node → Visit}
    (h : w.Itinerary settings visits n context ts failing reached) (mem : n ∈ w.nodes)
    (same_visits : ∀ t ∈ ts ++ failing.toList, t.visit = what t.node)
    (unlimited : Unlimited failing reached) :
    (ts ++ failing.toList).length ≤ w.nodes.length := by
  have among : (ts ++ failing.toList).map Stop.node ⊆ w.nodes := by
    intro m visited
    obtain ⟨t, there, rfl⟩ := List.mem_map.mp visited
    exact h.mem_nodes mem t there
  simpa using ((h.nodup same_visits unlimited).subperm among).length_le

end Itinerary

namespace Traversal

variable {limit other : Nat} {rest : Binary64 → Except Failure Unit}

theorem visits_usual (h : w.Traversal settings context ts failing reached)
    (still : ∀ n ∈ w.nodes, n.IsStill)
    (usual : ∀ t ∈ ts ++ failing.toList, ∀ e ∈ t.calls, NodeEvent.IsUsual rest e) :
    ∀ t ∈ ts ++ failing.toList, t.visit = t.node.usual settings rest context := by
  cases h with
  | unstarted => simp
  | walked only itinerary =>
    intro t mem
    exact (itinerary.visits_usual
      (fun u there => still _ (itinerary.mem_nodes (mem_nodes_of_starts only) u there))
      usual t mem).2

/-- An execution that is not limited ends by itself, and it visits no node twice. -/
theorem unrepeated {what : Node → Visit} (h : w.Traversal settings context ts failing reached)
    (distinct : (w.nodes.map (·.id)).Nodup)
    (same_visits : ∀ t ∈ ts ++ failing.toList, t.visit = what t.node)
    (unlimited : ¬ w.Limited settings.maxVisits failing reached) :
    w.EndsItself ts failing reached ∧ ((ts ++ failing.toList).map (·.node.id)).Nodup ∧
      (ts ++ failing.toList).length ≤ w.nodes.length := by
  cases h with
  | unstarted none => exact ⟨.unstarted none rfl rfl rfl, by simp, by simp⟩
  | walked only itinerary =>
    have ends := itinerary.limited_or_unlimited.resolve_left unlimited
    have mem := mem_nodes_of_starts only
    refine ⟨itinerary.endsItself ends, ?_, itinerary.length_le_nodes mem same_visits ends⟩
    -- Nodes of one workflow with one name are one node.
    have named : ∀ m ∈ (ts ++ failing.toList).map Stop.node,
        ∀ m' ∈ (ts ++ failing.toList).map Stop.node, m.id = m'.id → m = m' := by
      intro m visited m' visited' same
      obtain ⟨t, there, rfl⟩ := List.mem_map.mp visited
      obtain ⟨t', there', rfl⟩ := List.mem_map.mp visited'
      exact List.inj_on_of_nodup_map distinct (itinerary.mem_nodes mem t there)
        (itinerary.mem_nodes mem t' there') same
    have ids := (itinerary.nodup same_visits ends).map_on named
    rwa [List.map_map] at ids

/-- An execution that is limited although it might visit every node is limited however many visits
it has. -/
theorem limited_of_limited {what : Node → Visit}
    (h : w.Traversal { settings with maxVisits := limit } context ts failing reached)
    (h' : w.Traversal { settings with maxVisits := other } context ts' failing' reached')
    (same_visits : ∀ t ∈ ts ++ failing.toList, t.visit = what t.node)
    (same_visits' : ∀ t ∈ ts' ++ failing'.toList, t.visit = what t.node)
    (enough : w.nodes.length ≤ limit) (limited : w.Limited limit failing reached) :
    w.Limited other failing' reached' := by
  by_contra unlimited
  cases h with
  | unstarted none =>
    obtain ⟨-, id, ended⟩ := limited
    cases ended
  | walked only itinerary =>
    cases h' with
    | unstarted none => simp [only] at none
    | walked only' itinerary' =>
      obtain rfl : _ = _ := List.singleton_inj.mp (only.symm.trans only')
      have ends := itinerary'.limited_or_unlimited.resolve_left unlimited
      -- The limited walk used up its visits, and still it is shorter than the other one.
      have shorter :=
        (itinerary'.outlasts itinerary rfl same_visits' same_visits ends).2 limit limited
      have few := itinerary'.length_le_nodes (mem_nodes_of_starts only) same_visits' ends
      obtain ⟨id, ended⟩ := limited.2
      have full : ts.length = limit := (itinerary.cutOff_of_error limited.1 ended).1
      rw [limited.1, Option.toList_none, List.append_nil, full] at shorter
      omega

end Traversal

/-- An execution in which every node leaves the context as it is follows a traversal whose visits
are the usual ones in the context of the beginning. -/
theorem exists_usual_traversal {σ : Type} {respond : Responder EngineCall EngineCall.Reply σ}
    {rest : Binary64 → Except Failure Unit} (reliable : Reliable respond rest) (now : Timestamp)
    (settings : WorkflowSettings) (still : ∀ n ∈ w.nodes, n.IsStill) (asked : Value)
    (execution : String) (given : Context) (s : σ) :
    let program := w.execute now settings asked execution given
    ∃ ts failing reached,
      w.Traversal settings (w.presets.overlay given) ts failing reached ∧
      (∀ t ∈ ts ++ failing.toList,
        t.visit = t.node.usual settings rest (w.presets.overlay given)) ∧
      published (program.trace respond s) =
        [⟨execution, asked, now, .started w.nodes.length⟩] ++
        ts.map (fun t => ⟨execution, .text w.id, now, t.happening⟩) ++
        [⟨execution, asked, now, .finished (.ofResult reached.2)⟩] ∧
      answered (program.trace respond s) = (ts ++ failing.toList).flatMap Stop.calls ∧
      (program.run respond s).1 = .ofConclusion execution reached.1 (.ofResult reached.2) := by
  intro program
  obtain ⟨ms, run, traced⟩ := runs_run respond program s
  obtain ⟨ts, failing, reached, traversal, told, called, -, same⟩ := runs_execute run
  rw [traced] at told called
  have usual := reliable.isUsual (p := program) (s := s)
  rw [called] at usual
  refine ⟨ts, failing, reached, traversal, ?_, told, called, same⟩
  apply traversal.visits_usual still
  intro t mem e there
  exact usual e (List.mem_flatMap.mpr ⟨t, mem, there⟩)

/-- **What changes nothing is not repeated, or for ever.** Take a workflow in which no two nodes
have one name, and all of them leave the context as it is. An execution that is not limited ends by
itself and visits no node twice. So with as many visits as there are nodes, or more, either it ends
by itself after that many visits at most, or it is limited however many visits it has. -/
theorem execute_unrepeated {σ : Type} {respond : Responder EngineCall EngineCall.Reply σ}
    {rest : Binary64 → Except Failure Unit} (reliable : Reliable respond rest) (now : Timestamp)
    (settings : WorkflowSettings) (distinct : (w.nodes.map (·.id)).Nodup)
    (still : ∀ n ∈ w.nodes, n.IsStill) (asked : Value) (execution : String) (given : Context)
    (s : σ) :
    let limited (limit : Nat) : WorkflowSettings := { settings with maxVisits := limit }
    let program (limit : Nat) := w.execute now (limited limit) asked execution given
    let result (limit : Nat) := ((program limit).run respond s).1
    ∀ limit, ∃ ts failing reached,
      w.Traversal (limited limit) (w.presets.overlay given) ts failing reached ∧
      published ((program limit).trace respond s) =
        [⟨execution, asked, now, .started w.nodes.length⟩] ++
        ts.map (fun t => ⟨execution, .text w.id, now, t.happening⟩) ++
        [⟨execution, asked, now, .finished (.ofResult reached.2)⟩] ∧
      answered ((program limit).trace respond s) = (ts ++ failing.toList).flatMap Stop.calls ∧
      result limit = .ofConclusion execution reached.1 (.ofResult reached.2) ∧
      (¬ w.Limited limit failing reached →
        w.EndsItself ts failing reached ∧ ((ts ++ failing.toList).map (·.node.id)).Nodup) ∧
      (w.nodes.length ≤ limit →
        (w.EndsItself ts failing reached ∧ (ts ++ failing.toList).length ≤ w.nodes.length) ∨
          ∀ other, w.nodes.length ≤ other → ∃ id,
            result other = .failed execution (Failure.message (.visitLimit w.id other id))) := by
  intro limited program result limit
  -- The limit has no part in the visits, so a visit depends on the node alone under all limits.
  let what (n : Node) : Visit := n.usual settings rest (w.presets.overlay given)
  have traversed (limit : Nat) :=
    exists_usual_traversal reliable now (limited limit) still asked execution given s
  obtain ⟨ts, failing, reached, traversal, usual, told, called, ended⟩ := traversed limit
  have same_visits : ∀ t ∈ ts ++ failing.toList, t.visit = what t.node := usual
  refine ⟨ts, failing, reached, traversal, told, called, ended, fun unlimited => ?_, ?_⟩
  · obtain ⟨ends, nodup, -⟩ := traversal.unrepeated distinct same_visits unlimited
    exact ⟨ends, nodup⟩
  · intro enough
    by_cases at_limit : w.Limited limit failing reached
    · -- What is limited with so many visits is limited with any number of them.
      refine .inr fun other _ => ?_
      obtain ⟨ts', failing', reached', traversal', usual', -, -, ended'⟩ := traversed other
      have same_visits' : ∀ t ∈ ts' ++ failing'.toList, t.visit = what t.node := usual'
      obtain ⟨-, id, fails⟩ :=
        traversal.limited_of_limited traversal' same_visits same_visits' enough at_limit
      refine ⟨id, ?_⟩
      rw [fails] at ended'
      exact ended'
    · obtain ⟨ends, -, few⟩ := traversal.unrepeated distinct same_visits at_limit
      exact .inl ⟨ends, few⟩

/-- A workflow that goes round and round until its gate is open. -/
def roundabout : Workflow where
  id := "wf-1"
  name := "Roundabout"
  description := none
  nodes := [
    { id := "start", kind := .start, label := "", config := [],
      connections := { next := some "gate" }, rawKind := none },
    { id := "gate", kind := .condition, label := "",
      config := [("condition", .object [("field", "open"), ("operator", "equals"),
        ("value", .bool true)])],
      connections := { onTrue := some "end", onFalse := some "start" }, rawKind := none },
    { id := "end", kind := .finish, label := "", config := [], connections := {},
      rawKind := none }]
  presets := []
  trigger := none
  createdAt := none
  updatedAt := none

theorem reliable_idle (w : Workflow) : Reliable (Collaborators.idle w).respond fun _ => .ok () where
  sends _ _ _ _ := ⟨true, rfl⟩
  rests _ _ := rfl

/-- Where the gate is open every node is visited once, and where it is not the execution is limited
however many visits it has, since it is limited with three of them. -/
theorem execute_unrepeated_sample :
    let respond := (Collaborators.idle roundabout).respond
    let program (given : Context) (limit : Nat) :=
      roundabout.execute default { (default : WorkflowSettings) with maxVisits := limit }
        "wf-1" "exec" given
    let result (given : Context) (limit : Nat) :=
      ((program given limit).run respond { hidden := () }).1
    Reliable respond (fun _ => .ok ()) ∧ (roundabout.nodes.map (·.id)).Nodup ∧
      (∀ n ∈ roundabout.nodes, n.IsStill) ∧
      result [("open", .bool true)] 3 = .stopped "exec" [("open", .bool true)] (.completed "end") ∧
      ∀ other, 3 ≤ other → ∃ id,
        result [] other = .failed "exec" (Failure.message (.visitLimit "wf-1" other id)) := by
  intro respond program result
  have reliable := reliable_idle roundabout
  have distinct : (roundabout.nodes.map (·.id)).Nodup := by decide
  have still : ∀ n ∈ roundabout.nodes, n.IsStill := by
    simp [roundabout, Node.IsStill]
  refine ⟨reliable, distinct, still, rfl, ?_⟩
  obtain ⟨ts, failing, reached, -, told, -, ended, -, either⟩ :=
    execute_unrepeated reliable default default distinct still "wf-1" "exec" []
      { hidden := () } 3
  rcases either (Nat.le_refl 3) with ⟨ends, few⟩ | for_ever
  case inr => exact for_ever
  -- Three visits succeeded, and the execution failed, so it did not end by itself.
  have visited : ts.length = 3 := by
    have events : (published ((program [] 3).trace respond { hidden := () })).length = 5 := rfl
    have counted := congrArg List.length told
    simp only [List.length_append, List.length_map, List.length_singleton] at counted
    have matched := events.symm.trans counted
    omega
  have limited : result [] 3 = .failed "exec" (Failure.message (.visitLimit "wf-1" 3 "gate")) := rfl
  replace ended := limited.symm.trans ended
  cases ends with
  | completed _ _ _ stopped => rw [stopped] at ended; cases ended
  | truncated _ _ _ stopped => rw [stopped] at ended; cases ended
  | failed at_node =>
    rw [at_node] at few
    simp [visited] at few
    exact absurd few (by decide)
  | unstarted _ unvisited =>
    rw [unvisited] at visited
    cases visited

/-- A workflow that has an end and no beginning. -/
def headless : Workflow where
  id := "wf-1"
  name := "Headless"
  description := none
  nodes := [
    { id := "end", kind := .finish, label := "", config := [], connections := {},
      rawKind := none }]
  presets := []
  trigger := none
  createdAt := none
  updatedAt := none

/-- A node that rests over and over again. -/
def nap : Node where
  id := "nap"
  kind := .delay
  label := ""
  config := [("delay", .real (.ofInt 0))]
  connections := { next := some "nap" }
  rawKind := none

/-- The node before it. -/
def outset : Node where
  id := "start"
  kind := .start
  label := ""
  config := []
  connections := { next := some "nap" }
  rawKind := none

/-- A workflow that comes to rest, and does nothing else. -/
def drowsy : Workflow where
  id := "wf-1"
  name := "Drowsy"
  description := none
  nodes := [outset, nap]
  presets := []
  trigger := none
  createdAt := none
  updatedAt := none

/-- Everything goes well until the second rest, which is interrupted. The state counts the rests. -/
def interrupted : Responder EngineCall EngineCall.Reply Nat := fun c rests =>
  match c with
  | .node (.rest _) =>
    (if rests = 0 then .ok () else .error (.raised .runtime (.text "interrupted")), rests + 1)
  | .node (.send ..) => ({ result := .ok true }, rests)
  | .node (.act ..) => ({ result := .ok () }, rests)
  | .node (.service ..) | .node (.transform ..) => ({ result := .ok (.whole .null) }, rests)
  | .workflow _ | .form _ | .endpoint _ => (.ok none, rests)
  | .issue kind => (kind, rests)
  | .keep _ | .publish _ => (.ok (), rests)

/-- An execution may end in two more ways. Without a start node it fails before any node is visited,
so it ends neither at an end node nor by truncation nor by a failing node, and it is not limited
either. And where rests of one length do not end alike, it may fail at a node at which it was
before. -/
theorem execute_unstarted_or_interrupted :
    let restricted (limit : Nat) : WorkflowSettings :=
      { (default : WorkflowSettings) with maxVisits := limit }
    let result (limit : Nat) := ((headless.execute default (restricted limit) "wf-1" "exec" []).run
      (Collaborators.idle headless).respond { hidden := () }).1
    (∀ limit, result limit = .failed "exec" "Workflow wf-1 has no start node" ∧
      ∀ ts failing reached, headless.Traversal (restricted limit) [] ts failing reached →
        ts = [] ∧ failing = none ∧ (∀ outcome, reached.2 ≠ .ok outcome) ∧
          ¬ headless.Limited limit failing reached) ∧
      ∃ ts failing reached, drowsy.Traversal default [] ts failing reached ∧
        ((drowsy.execute default default "wf-1" "exec" []).run interrupted 0).1 =
          .ofConclusion "exec" reached.1 (.ofResult reached.2) ∧
        (ts ++ failing.toList).map (·.node.id) = ["start", "nap", "nap"] ∧
        ¬ drowsy.Limited (default : WorkflowSettings).maxVisits failing reached := by
  intro restricted result
  refine ⟨fun limit => ⟨rfl, ?_⟩, ?_⟩
  · intro ts failing reached traversal
    cases traversal with
    | unstarted =>
      refine ⟨rfl, rfl, fun outcome stopped => ?_, fun ⟨_, id, limited⟩ => ?_⟩
      · cases stopped
      · cases limited
    | walked only =>
      have none : headless.starts = [] := rfl
      rw [none] at only
      cases only
  · let f : Failure := .raised .runtime (.text "interrupted")
    obtain ⟨seconds, delay⟩ : ∃ seconds, nap.delay default = .ok seconds := ⟨_, rfl⟩
    let stay (reply : Except Failure Unit) : Stop :=
      ⟨nap, [], [⟨.rest seconds, reply⟩], nap.afterCall { result := reply }⟩
    have genuine (reply : Except Failure Unit) : (stay reply).Genuine default :=
      .rested rfl delay reply
    -- The first rest ends well, and the second one does not.
    have second : drowsy.Itinerary default 998 nap [] [] (some (stay (.error f))) ([], .error f) :=
      .failed (genuine (.error f)) rfl
    have first : drowsy.Itinerary default 999 nap [] [stay (.ok ())] (some (stay (.error f)))
        ([], .error f) :=
      .onward (genuine (.ok ())) rfl rfl second
    have start : Stop.Genuine default ⟨outset, [], [], outset.pass⟩ := .passed (.inl rfl)
    refine ⟨_, _, _, .walked rfl (.onward start rfl rfl first), rfl, rfl, ?_⟩
    rintro ⟨⟨⟩, -⟩

end Workflow

end Fulfilment
