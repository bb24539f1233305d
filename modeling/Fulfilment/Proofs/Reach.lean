import Fulfilment.Proofs.Reports
import Mathlib.Data.List.Nodup
import Mathlib.Data.Set.Insert

/-!
# Within reach of the start

A walk looks up no other nodes than those to which its nodes lead. Two workflows may therefore
differ in everything that the start node does not lead to, directly or through other nodes, and in
the order of their nodes as long as a name stands for the same node: their executions are the same.
Only the announcement of the beginning tells how many nodes there are.

The start node itself is not looked up by its name, so it does not matter whether it is the first
node of its name, unless a node leads back to it.

## Main definitions

* `Node.LeadsTo` - whether a node has a connection to a name
* `Workflow.AgreeWithin` - two workflows that agree on what their start node leads to
* `CallByCall` - collaborators that reply alike, call by call
* `Workflow.ExecutesLike` - two workflows whose executions are the same but for the number of nodes

## Main results

* `Program.bind_congr_of_runs` - programs that agree on what comes before goes on alike
* `Workflow.AgreeWithin.walk_eq`, `Workflow.AgreeWithin.itinerary` - the walks of such workflows
* `Workflow.execute_within_reach` - their executions, reordered nodes, and nodes that are appended
-/

namespace Fulfilment

open Program

namespace Program

variable {Call : Type} {Reply : Call → Type} {α β σ σ' : Type}

/-- The environment that allows every reply. -/
def Environment.any : Environment Call Reply Unit := fun _ _ _ => True

/-- What follows on a program matters only for the results that the program can have. -/
theorem bind_congr_of_runs {p : Program Call Reply α} {f g : α → Program Call Reply β}
    (same : ∀ ms a, Runs .any p () ms a () → f a = g a) : p.bind f = p.bind g := by
  induction p with
  | done a => exact same [] a (.done a ())
  | call c next ih =>
    rw [bind_call, bind_call]
    congr 1
    funext r
    exact ih r fun ms a run => same _ a (.call trivial run)

/-- Whether two responders reply alike to every call in states that are alike, and keep them
alike. -/
structure InStep (respond : Responder Call Reply σ) (respond' : Responder Call Reply σ')
    (alike : σ → σ' → Prop) : Prop where
  /-- The replies are the same. -/
  reply : ∀ c s s', alike s s' → (respond' c s').1 = (respond c s).1
  /-- The states stay alike. -/
  after : ∀ c s s', alike s s' → alike (respond c s).2 (respond' c s').2

/-- A program does the same with both of them. -/
theorem InStep.run {respond : Responder Call Reply σ} {respond' : Responder Call Reply σ'}
    {alike : σ → σ' → Prop} (h : InStep respond respond' alike) (p : Program Call Reply α) {s : σ}
    {s' : σ'} (before : alike s s') :
    (p.run respond' s').1 = (p.run respond s).1 ∧ alike (p.run respond s).2 (p.run respond' s').2 ∧
      p.trace respond' s' = p.trace respond s := by
  induction p generalizing s s' with
  | done a => exact ⟨rfl, before, rfl⟩
  | call c next ih =>
    have rest := ih (respond c s).1 (h.after c s s' before)
    simp only [run_call, trace, h.reply c s s' before]
    exact ⟨rest.1, rest.2.1, congrArg _ rest.2.2⟩

end Program

/-! ### Where a node leads -/

/-- Whether a node has a connection to a name. -/
def Node.LeadsTo (n : Node) (id : String) : Prop :=
  n.connections.next = some id ∨ n.connections.onTrue = some id ∨ n.connections.onFalse = some id

/-- A walk goes on from a node only where the node leads. -/
theorem Node.Stay.leadsTo {settings : WorkflowSettings} {n : Node} {context : Context}
    {calls : List NodeEvent} {visit : Visit} {id : String}
    (h : n.Stay settings context calls visit) (goes : visit.next = .ok (.goOn (some id))) :
    n.LeadsTo id := by
  have onward (same : Next.goOn (some id) = .goOn n.connections.next) : n.LeadsTo id :=
    .inl (Next.goOn.inj same).symm
  -- All nodes but conditions have one way on.
  cases h with
  | passed => exact onward (Except.ok.inj goes).symm
  | finished => cases goes
  | idle => exact onward (Except.ok.inj goes).symm
  | acted => exact onward (Node.next_afterCall goes)
  | decided =>
    rcases Node.next_afterCondition goes with same | same
    · exact .inr (.inl (Next.goOn.inj same).symm)
    · exact .inr (.inr (Next.goOn.inj same).symm)
  | served => exact onward (Node.next_merge goes)
  | transformed => exact onward (Node.next_merge goes)
  | messaged => exact onward (Node.next_afterCall goes)
  | unreadable => cases goes
  | rested => exact onward (Node.next_afterCall goes)

namespace Workflow

variable {w w' : Workflow} {settings : WorkflowSettings} {visits : Nat} {n start : Node}
  {R : Set String} {context : Context} {ts : List Stop} {failing : Option Stop} {reached : WalkEnd}

/-- Whether two workflows agree on the names that the only start node of both leads to, directly or
through other nodes. The set of names may be larger than it has to be. -/
structure AgreeWithin (w w' : Workflow) (start : Node) (R : Set String) : Prop where
  /-- They have one name. -/
  named : w'.id = w.id
  /-- Their contexts start from the same values. -/
  preset : w'.presets = w.presets
  /-- This is the only start node of the first workflow. -/
  only : w.starts = [start]
  /-- This is the only start node of the second workflow. -/
  only' : w'.starts = [start]
  /-- The start node leads nowhere else. -/
  begins : ∀ id, start.LeadsTo id → id ∈ R
  /-- The nodes of these names lead nowhere else. -/
  closed : ∀ id ∈ R, ∀ n, w.find? id = some n → ∀ target, n.LeadsTo target → target ∈ R
  /-- The same nodes have these names, or no nodes. -/
  found : ∀ id ∈ R, w'.find? id = w.find? id

/-! ### Walks -/

/-- The successor of a node is a matter of the name that is looked up. -/
theorem successor_congr {next : Next}
    (same : ∀ id, next = .goOn (some id) → w'.find? id = w.find? id) :
    w'.successor n next = w.successor n next := by
  match next with
  | .complete => rfl
  | .goOn none => rfl
  | .goOn (some id) => simp only [successor, same id rfl]

namespace AgreeWithin

theorem leadsTo_of_successor (h : w.AgreeWithin w' start R) {next : Next} {m : Node}
    (here : ∀ id, next = .goOn (some id) → id ∈ R) (leads : w.successor n next = .inr m) :
    ∀ id, m.LeadsTo id → id ∈ R := by
  obtain ⟨target, found⟩ := successor_eq_inr leads
  have within : m.id ∈ R := by
    match next, target with
    | .goOn (some _), rfl => exact here _ rfl
  exact h.closed m.id within m found

/-- Both walk alike from a node that leads only to such names. -/
theorem walk_eq (h : w.AgreeWithin w' start R) (now : Timestamp) (settings : WorkflowSettings)
    (execution : String) (visits : Nat) (here : ∀ id, n.LeadsTo id → id ∈ R) :
    w'.walk now settings execution visits n context =
      w.walk now settings execution visits n context := by
  induction visits generalizing n context with
  | zero => simp only [walk, h.named]
  | succ visits ih =>
    simp only [walk]
    apply bind_congr_of_runs
    intro ms visit visited
    -- What matters is only where the visit may lead.
    obtain ⟨calls, stay, -⟩ := Node.stay_of_runs visited
    cases goes : visit.next with
    | error f => rfl
    | ok next =>
      have towards : ∀ id, next = .goOn (some id) → id ∈ R := by
        rintro id rfl
        exact here id (stay.leadsTo goes)
      simp only [h.named, successor_congr fun id on => h.found id (towards id on)]
      congr 1
      funext _
      cases leads : w.successor n next with
      | inl outcome => rfl
      | inr m => exact ih (h.leadsTo_of_successor towards leads)

theorem traverse_eq (h : w.AgreeWithin w' start R) (now : Timestamp) (settings : WorkflowSettings)
    (execution : String) (context : Context) :
    w'.traverse now settings execution context = w.traverse now settings execution context := by
  simp only [traverse, h.only, h.only']
  exact h.walk_eq now settings execution settings.maxVisits h.begins

/-- Both come through the same stops. -/
theorem itinerary (h : w.AgreeWithin w' start R)
    (walked : w.Itinerary settings visits n context ts failing reached)
    (here : ∀ id, n.LeadsTo id → id ∈ R) :
    w'.Itinerary settings visits n context ts failing reached := by
  -- Stop by stop, the names that are looked up are among those on which the workflows agree.
  induction walked with
  | exhausted n context =>
    rw [← h.named]
    exact .exhausted n context
  | failed genuine fails => exact .failed genuine fails
  | @stopped visits t next outcome genuine goes stops =>
    refine .stopped genuine goes ?_
    rw [successor_congr, stops]
    rintro id rfl
    exact h.found id (here id (genuine.leadsTo goes))
  | @onward visits t next m ts failing reached genuine goes leads rest ih =>
    have towards : ∀ id, next = .goOn (some id) → id ∈ R := by
      rintro id rfl
      exact here id (genuine.leadsTo goes)
    refine .onward genuine goes ?_ (ih (h.leadsTo_of_successor towards leads))
    rw [successor_congr fun id on => h.found id (towards id on), leads]

theorem traversal (h : w.AgreeWithin w' start R)
    (walked : w.Traversal settings context ts failing reached) :
    w'.Traversal settings context ts failing reached := by
  cases walked with
  | unstarted none => simp [h.only] at none
  | walked only itinerary =>
    obtain rfl : start = _ := List.singleton_inj.mp (h.only.symm.trans only)
    exact .walked h.only' (h.itinerary itinerary h.begins)

end AgreeWithin

/-! ### Executions -/

end Workflow

/-- Whether two groups of collaborators reply alike, call by call, and do not mind how many nodes a
workflow is said to have when its execution begins. -/
structure CallByCall {σ σ' : Type} (respond : Responder EngineCall EngineCall.Reply σ)
    (respond' : Responder EngineCall EngineCall.Reply σ') (alike : σ → σ' → Prop) : Prop extends
    InStep respond respond' alike where
  /-- The announcements of two beginnings are replied to alike. -/
  begun : ∀ execution workflow now count count' s s', alike s s' →
    let first := respond (.publish ⟨execution, workflow, now, .started count⟩) s
    let second := respond' (.publish ⟨execution, workflow, now, .started count'⟩) s'
    second.1 = first.1 ∧ alike first.2 second.2

namespace Workflow

variable {w w' : Workflow} {n start : Node} {R : Set String} {id : String}

/-- Whether two workflows execute alike: asked for alike, under one identifier, with the same input
and settings and with collaborators that reply alike, both come through the same stops to the same
end, and all events are the same but the first one, which tells how many nodes there are. -/
def ExecutesLike (w w' : Workflow) : Prop :=
  ∀ (now : Timestamp) (settings : WorkflowSettings) (asked : Value) (execution : String)
    (given : Context) {σ σ' : Type} (respond : Responder EngineCall EngineCall.Reply σ)
    (respond' : Responder EngineCall EngineCall.Reply σ') (alike : σ → σ' → Prop) (s : σ) (s' : σ'),
    CallByCall respond respond' alike → alike s s' →
    let program := w.execute now settings asked execution given
    let program' := w'.execute now settings asked execution given
    let begun (count : Nat) : EngineCall := .publish ⟨execution, asked, now, .started count⟩
    ∃ ts failing reached reply rest,
      w.Traversal settings (w.presets.overlay given) ts failing reached ∧
      w'.Traversal settings (w'.presets.overlay given) ts failing reached ∧
      program.trace respond s = ⟨begun w.nodes.length, reply⟩ :: rest ∧
      program'.trace respond' s' = ⟨begun w'.nodes.length, reply⟩ :: rest ∧
      published rest = ts.map (fun t => ⟨execution, .text w.id, now, t.happening⟩) ++
        [⟨execution, asked, now, .finished (.ofResult reached.2)⟩] ∧
      answered rest = (ts ++ failing.toList).flatMap Stop.calls ∧
      (program.run respond s).1 = .ofConclusion execution reached.1 (.ofResult reached.2) ∧
      (program'.run respond' s').1 = (program.run respond s).1 ∧
      alike (program.run respond s).2 (program'.run respond' s').2

/-- What follows on the announcement of the beginning. -/
def afterwards (now : Timestamp) (settings : WorkflowSettings) (w : Workflow) (asked : Value)
    (execution : String) (given : Context) : EngineProgram ExecutionResult :=
  (w.traverse now settings execution (w.presets.overlay given)).bind (conclude now asked execution)

theorem execute_eq (now : Timestamp) (settings : WorkflowSettings) (asked : Value)
    (execution : String) (given : Context) : w.execute now settings asked execution given =
      .call (.publish ⟨execution, asked, now, .started w.nodes.length⟩)
        fun _ => w.afterwards now settings asked execution given := rfl

/-- Workflows whose walks are the same execute alike. -/
theorem executesLike_of_traverse (preset : w'.presets = w.presets)
    (walks : ∀ now settings execution context,
      w'.traverse now settings execution context = w.traverse now settings execution context)
    (stops : ∀ settings context ts failing reached,
      w.Traversal settings context ts failing reached →
        w'.Traversal settings context ts failing reached) : w.ExecutesLike w' := by
  intro now settings asked execution given σ σ' respond respond' alike s s' each before program
    program' begun
  -- After the announcement of the beginning the two programs are one.
  have whole' : program' = .call (begun w'.nodes.length) fun _ =>
      w.afterwards now settings asked execution given := by
    simp only [program', begun, execute_eq]
    rw [afterwards, walks, preset]
    rfl
  let first := respond (begun w.nodes.length) s
  let second := respond' (begun w'.nodes.length) s'
  obtain ⟨replied, alike_begun⟩ : second.1 = first.1 ∧ alike first.2 second.2 :=
    each.begun execution asked now w.nodes.length w'.nodes.length s s' before
  obtain ⟨result, after, trace⟩ :=
    each.toInStep.run (w.afterwards now settings asked execution given) alike_begun
  have traced' : program'.trace respond' s' = ⟨begun w'.nodes.length, second.1⟩ ::
      (w.afterwards now settings asked execution given).trace respond' second.2 := by
    rw [whole']
    rfl
  obtain ⟨ms, run, traced⟩ := runs_run respond program s
  obtain ⟨ts, failing, reached, traversal, told, called, -, same⟩ := runs_execute run
  rw [traced] at told called
  refine ⟨ts, failing, reached, first.1,
    (w.afterwards now settings asked execution given).trace respond first.2, traversal, ?_, rfl,
    ?_, ?_, ?_, same, ?_, ?_⟩
  · rw [preset]
    exact stops settings _ ts failing reached traversal
  · rw [traced', trace, replied]
  · exact (List.cons.inj told).2
  · exact called
  · rw [whole']
    exact result
  · rw [whole']
    exact after

/-- Workflows execute alike if they agree on what their start node leads to, where each has one, and
if otherwise they have as many start nodes. -/
theorem executesLike_of_starts (named : w'.id = w.id) (preset : w'.presets = w.presets)
    (count : w'.starts.length = w.starts.length)
    (within : ∀ start, w.starts = [start] → ∃ R, w.AgreeWithin w' start R) :
    w.ExecutesLike w' := by
  by_cases single : w.starts.length = 1
  · obtain ⟨start, only⟩ := List.length_eq_one_iff.mp single
    obtain ⟨R, agree⟩ := within start only
    exact executesLike_of_traverse preset agree.traverse_eq fun _ _ _ _ _ walked =>
      agree.traversal walked
  · -- Without a single start node both fail before any node is visited.
    have single' : w'.starts.length ≠ 1 := count ▸ single
    apply executesLike_of_traverse preset
    · intro now settings execution context
      rw [traverse_of_starts_ne now settings w execution context single,
        traverse_of_starts_ne now settings w' execution context single', named, count]
    · intro settings context ts failing reached walked
      cases walked with
      | unstarted =>
        rw [← named, ← count]
        exact .unstarted single'
      | walked only => simp [only] at single

/-! ### Nodes in another order, and nodes that are appended -/

/-- Where no two nodes have one name, the order of the nodes does not matter to what is found. -/
theorem find?_of_perm {nodes : List Node} (distinct : (w.nodes.map (·.id)).Nodup)
    (perm : nodes.Perm w.nodes) (id : String) :
    ({ w with nodes := nodes } : Workflow).find? id = w.find? id := by
  cases found : w.find? id with
  | none =>
    refine List.find?_eq_none.mpr fun n mem => ?_
    exact List.find?_eq_none.mp found n (perm.mem_iff.mp mem)
  | some n =>
    have named : n.id = id := by simpa using List.find?_some found
    have there : n ∈ nodes := perm.mem_iff.mpr (List.mem_of_find?_eq_some found)
    cases found' : ({ w with nodes := nodes } : Workflow).find? id with
    | none => exact absurd (by simpa using named) (List.find?_eq_none.mp found' n there)
    | some m =>
      -- Both are nodes of this name, so they are one.
      have named' : m.id = id := by simpa using List.find?_some found'
      have mem := perm.mem_iff.mp (List.mem_of_find?_eq_some found')
      rw [List.inj_on_of_nodup_map distinct mem (List.mem_of_find?_eq_some found)
        (named'.trans named.symm)]

theorem executesLike_of_perm {nodes : List Node} (distinct : (w.nodes.map (·.id)).Nodup)
    (perm : nodes.Perm w.nodes) : w.ExecutesLike { w with nodes := nodes } := by
  have starts : ({ w with nodes := nodes } : Workflow).starts.Perm w.starts := perm.filter _
  refine executesLike_of_starts ?named ?preset starts.length_eq fun start only => ?_
  case named | preset => rfl
  rw [only] at starts
  refine ⟨Set.univ, ?_⟩
  exact {
    named := rfl
    preset := rfl
    only := only
    only' := List.perm_singleton.mp starts
    begins := fun _ _ => trivial
    closed := fun _ _ _ _ _ _ => trivial
    found := fun id _ => find?_of_perm distinct perm id }

theorem find?_append (id : String) : ({ w with nodes := w.nodes ++ [n] } : Workflow).find? id =
    (w.find? id).or (if n.id = id then some n else none) := by
  simp [find?, List.find?_append, List.find?_singleton]

theorem executesLike_append (other : n.kind ≠ .start)
    (unseen : (∀ m ∈ w.nodes, ¬ m.LeadsTo n.id) ∨ ∃ m ∈ w.nodes, m.id = n.id) :
    w.ExecutesLike { w with nodes := w.nodes ++ [n] } := by
  have starts : ({ w with nodes := w.nodes ++ [n] } : Workflow).starts = w.starts := by
    simp [Workflow.starts, other]
  refine executesLike_of_starts ?named ?preset (congrArg List.length starts) fun start only => ?_
  case named | preset => rfl
  -- Either the name of the new node is not looked up, or an earlier node is found there.
  refine ⟨{id | (∃ m ∈ w.nodes, m.id = n.id) ∨ id ≠ n.id}, ?_⟩
  have within {m : Node} (mem : m ∈ w.nodes) (id : String) (leads : m.LeadsTo id) :
      (∃ m ∈ w.nodes, m.id = n.id) ∨ id ≠ n.id := by
    rcases unseen with nowhere | taken
    · refine .inr ?_
      rintro rfl
      exact nowhere m mem leads
    · exact .inl taken
  exact {
    named := rfl
    preset := rfl
    only := only
    only' := starts.trans only
    begins := within (mem_nodes_of_starts only)
    closed := fun _ _ m found => within (List.mem_of_find?_eq_some found)
    found := by
      intro id here
      rw [find?_append]
      cases found : w.find? id with
      | some m => rfl
      | none =>
        have free : n.id ≠ id := by
          rintro rfl
          rcases here with ⟨m, mem, same⟩ | ne
          · exact List.find?_eq_none.mp found m mem (by simpa using same)
          · exact ne rfl
        simp [free] }

/-- **An execution depends on what the start node leads to.** Two workflows that agree on it execute
alike, whatever else they contain. So nodes that have different names may be put in another order,
and a node that is no start node may be appended if no node leads to its name or the name is taken.
-/
theorem execute_within_reach :
    (∀ (w w' : Workflow) (start : Node) (R : Set String),
      w.AgreeWithin w' start R → w.ExecutesLike w') ∧
    (∀ (w : Workflow) (nodes : List Node), (w.nodes.map (·.id)).Nodup → nodes.Perm w.nodes →
      w.ExecutesLike { w with nodes := nodes }) ∧
    ∀ (w : Workflow) (n : Node), n.kind ≠ .start →
      ((∀ m ∈ w.nodes, ¬ m.LeadsTo n.id) ∨ ∃ m ∈ w.nodes, m.id = n.id) →
      w.ExecutesLike { w with nodes := w.nodes ++ [n] } := by
  refine ⟨fun w w' start R agree => ?_, fun w nodes => executesLike_of_perm,
    fun w n => executesLike_append⟩
  exact executesLike_of_traverse agree.preset agree.traverse_eq fun _ _ _ _ _ walked =>
    agree.traversal walked

/-- The start node of a workflow with a gate. -/
def entry : Node where
  id := "start"
  kind := .start
  label := ""
  config := []
  connections := { next := some "gate" }
  rawKind := none

/-- A gate with nothing behind it as long as it is not open. -/
def gate : Node where
  id := "gate"
  kind := .condition
  label := ""
  config := [("condition", .object [("field", "open"), ("operator", "equals"),
    ("value", .bool true)])]
  connections := { onTrue := some "end", onFalse := some "ghost" }
  rawKind := none

/-- A node that leads nowhere. -/
def aside (id : String) (kind : NodeKind) : Node where
  id := id
  kind := kind
  label := ""
  config := []
  connections := {}
  rawKind := none

/-- A workflow with these nodes. -/
def estate (nodes : List Node) : Workflow where
  id := "wf-1"
  name := "Estate"
  description := none
  nodes := nodes
  presets := []
  trigger := none
  createdAt := none
  updatedAt := none

theorem callByCall_idle (w : Workflow) :
    CallByCall (Collaborators.idle w).respond (Collaborators.idle w).respond
      fun s s' => s' = s ∧ s.bus = {} where
  reply := by
    rintro c s _ ⟨rfl, -⟩
    rfl
  after := by
    rintro c s _ ⟨rfl, silent⟩
    refine ⟨rfl, ?_⟩
    cases c with
    | publish e => simp [Collaborators.respond, silent]
    | _ => exact silent
  begun := by
    rintro execution workflow now count count' s _ ⟨rfl, silent⟩
    simp [Collaborators.respond, silent]

/-- The start node may be hidden behind another node of its name, and a name may be missing. -/
theorem execute_within_reach_sample :
    let hidden := estate [aside "start" .email, entry, gate, aside "end" .finish]
    let plain := estate [aside "attic" .email, aside "end" .finish, gate, entry]
    let respond := (Collaborators.idle hidden).respond
    let result (w : Workflow) (given : Context) :=
      ((w.execute default default "wf-1" "exec" given).run respond { hidden := () }).1
    hidden.AgreeWithin plain entry {"gate", "end", "ghost"} ∧ hidden.ExecutesLike plain ∧
      result plain [("open", .bool true)] =
        .stopped "exec" [("open", .bool true)] (.completed "end") ∧
      result plain [] = .stopped "exec" [] (.truncated "gate" (some "ghost")) ∧
      plain.ExecutesLike (estate [entry, gate, aside "end" .finish, aside "attic" .email]) ∧
      hidden.ExecutesLike (estate (hidden.nodes ++ [aside "attic" .email])) ∧
      hidden.ExecutesLike (estate (hidden.nodes ++ [aside "gate" .finish])) := by
  intro hidden plain respond result
  have agree : hidden.AgreeWithin plain entry {"gate", "end", "ghost"} := {
    named := rfl
    preset := rfl
    only := rfl
    only' := rfl
    begins := by simp [Node.LeadsTo, entry]
    closed := by
      rintro id (rfl | rfl | rfl) n found
      · obtain rfl : gate = n := Option.some.inj found
        rintro target (leads | leads | leads) <;> cases leads <;> simp
      · obtain rfl : aside "end" .finish = n := Option.some.inj found
        rintro target (leads | leads | leads) <;> cases leads
      · cases found
    found := by
      rintro id (rfl | rfl | rfl) <;> rfl }
  obtain ⟨alike, reordered, appended⟩ := execute_within_reach
  have same := alike hidden plain entry _ agree
  have result_eq (given : Context) : result plain given = result hidden given := by
    obtain ⟨_, _, _, _, _, _, _, _, _, _, _, _, results, _⟩ := same default default "wf-1" "exec"
      given respond respond _ { hidden := () } { hidden := () } (callByCall_idle hidden) ⟨rfl, rfl⟩
    exact results
  refine ⟨agree, same, ?_, ?_, reordered plain _ (by decide) (List.reverse_perm plain.nodes),
    appended hidden _ ?_ (.inl ?_), appended hidden _ ?_ (.inr ⟨gate, ?_, rfl⟩)⟩
  · exact (result_eq _).trans rfl
  · exact (result_eq _).trans rfl
  · decide
  · simp [hidden, estate, aside, entry, gate, Node.LeadsTo]
  · decide
  · simp [hidden, estate]

end Workflow

end Fulfilment
