import Fulfilment.Proofs.Reports

/-!
# The limit of visits

An execution visits no more nodes than its settings allow. It is cut off exactly when as many nodes
were visited without a failure, the last of them is no end node, and it leads to a node that is
there; this is the node that the failure names. An execution that is not cut off is the same under
every limit that is enough for the nodes that it visits, one that ends at an end node on its last
visit included.

## Main definitions

* `Workflow.CutOff` - whether a walk is cut off at a node

## Main results

* `Workflow.Itinerary.length_le` - no more nodes are visited than visits are left
* `Workflow.Itinerary.cutOff_of_error`, `Workflow.Itinerary.error_of_cutOff` - when a walk is cut
  off
* `Workflow.Itinerary.completed` - a walk that visits an end node is complete
* `Workflow.execute_limited` - executions under different limits
-/

namespace Fulfilment.Workflow

open Program

variable {w : Workflow} {settings : WorkflowSettings} {visits : Nat} {n m : Node}
  {context : Context} {ts : List Stop} {failing : Option Stop} {reached : WalkEnd} {last : Stop}

/-- Whether a walk is cut off at a node: as many nodes were visited as the limit allows, and the
last of them is no end node and leads to this node, which is there. -/
structure CutOff (w : Workflow) (limit : Nat) (ts : List Stop) (m : Node) : Prop where
  /-- The limit is used up. -/
  full : ts.length = limit
  /-- The walk would have gone on at the node. -/
  leads : ∃ last, ts.getLast? = some last ∧ last.node.kind ≠ .finish ∧ last.next? = some m.id ∧
    w.find? m.id = some m

/-- A walk does not go on from an end node. -/
theorem kind_of_successor {t : Stop} {next : Next} (genuine : t.Genuine settings)
    (goes : t.visit.next = .ok next) (leads : w.successor t.node next = .inr m) :
    t.node.kind ≠ .finish := by
  intro finish
  rw [(genuine.complete_iff goes).mpr finish] at leads
  cases leads

namespace Itinerary

/-- No more nodes are visited than visits are left. -/
theorem length_le (h : w.Itinerary settings visits n context ts failing reached) :
    (ts ++ failing.toList).length ≤ visits := by
  induction h with
  | exhausted => exact Nat.le_refl 0
  | failed => simp
  | stopped => simp
  | onward _ _ _ _ ih => simpa using ih

/-- Where no visits are left, the walk fails at the node. -/
theorem of_zero (h : w.Itinerary settings 0 n context ts failing reached) :
    failing = none ∧ reached.2 = .error (.visitLimit w.id settings.maxVisits n.id) := by
  cases h
  exact ⟨rfl, rfl⟩

/-- A walk that fails without a failing visit has used up its visits. The failure names the node at
which it would have gone on. -/
theorem cutOff_of_error (h : w.Itinerary settings visits n context ts failing reached)
    (unfailing : failing = none) {f : Failure} (fails : reached.2 = .error f) :
    ts.length = visits ∧ ∃ m, f = .visitLimit w.id settings.maxVisits m.id ∧ (ts = [] → m = n) ∧
      ∀ last, ts.getLast? = some last → last.node.kind ≠ .finish ∧ last.next? = some m.id ∧
        w.find? m.id = some m := by
  induction h with
  | exhausted n context =>
    cases fails
    exact ⟨rfl, n, rfl, fun _ => rfl, by simp⟩
  | failed => cases unfailing
  | stopped => cases fails
  | @onward visits t next k ts failing reached genuine goes leads rest ih =>
    obtain ⟨full, m, named, first, at_last⟩ := ih unfailing fails
    refine ⟨by rw [List.length_cons, full], m, named, by simp, fun last is_last => ?_⟩
    rw [List.getLast?_cons, Option.some.injEq] at is_last
    cases end_ : ts.getLast? with
    | some u =>
      obtain rfl : u = last := by simpa [end_] using is_last
      exact at_last u end_
    | none =>
      -- The walk has come from the node before the one that it would have visited next.
      obtain rfl : t = last := by simpa [end_] using is_last
      obtain rfl := first (List.getLast?_eq_none_iff.mp end_)
      obtain ⟨named, found⟩ := successor_eq_inr leads
      exact ⟨kind_of_successor genuine goes leads, (Stop.next?_of_ok goes).trans named, found⟩

/-- A walk that has used up its visits fails when it would have gone on. -/
theorem error_of_cutOff (h : w.Itinerary settings visits n context ts failing reached)
    (full : ts.length = visits) (is_last : ts.getLast? = some last)
    (named : last.next? = some m.id) (found : w.find? m.id = some m) :
    failing = none ∧ reached.2 = .error (.visitLimit w.id settings.maxVisits m.id) := by
  induction h with
  | exhausted => cases is_last
  | failed => cases full
  | stopped genuine goes stops =>
    obtain rfl : _ = last := by simpa using is_last
    have missing := (successor_eq_inl genuine goes stops).2 m.id named
    rw [found] at missing
    cases missing
  | @onward visits t next k ts failing reached genuine goes leads rest ih =>
    rw [List.getLast?_cons, Option.some.injEq] at is_last
    rw [List.length_cons, Nat.add_right_cancel_iff] at full
    cases end_ : ts.getLast? with
    | some u =>
      obtain rfl : u = last := by simpa [end_] using is_last
      exact ih full end_
    | none =>
      obtain rfl : t = last := by simpa [end_] using is_last
      obtain rfl := List.getLast?_eq_none_iff.mp end_
      obtain ⟨target, -⟩ := successor_eq_inr leads
      rw [Stop.next?_of_ok goes, target, Option.some.injEq] at named
      -- No visit is left for the node at which the walk would have gone on.
      obtain rfl : visits = 0 := full.symm
      rw [← named]
      exact rest.of_zero

/-- A walk that visits an end node is complete. -/
theorem completed (h : w.Itinerary settings visits n context ts failing reached)
    (is_last : ts.getLast? = some last) (finish : last.node.kind = .finish) :
    failing = none ∧ reached.2 = .ok (.completed last.node.id) := by
  induction h with
  | exhausted => cases is_last
  | failed => cases is_last
  | stopped genuine goes stops =>
    obtain rfl : _ = last := by simpa using is_last
    obtain ⟨rfl, -⟩ := successor_eq_inl genuine goes stops
    exact ⟨rfl, by simp [Stop.outcome, finish]⟩
  | @onward visits t next k ts failing reached genuine goes leads rest ih =>
    rw [List.getLast?_cons, Option.some.injEq] at is_last
    cases end_ : ts.getLast? with
    | some u =>
      obtain rfl : u = last := by simpa [end_] using is_last
      exact ih end_
    | none =>
      obtain rfl : t = last := by simpa [end_] using is_last
      exact absurd finish (kind_of_successor genuine goes leads)

end Itinerary

/-- **The limit of visits is exact.** An execution visits no more nodes than the limit allows. It
fails without a failing visit if and only if it is cut off, and the failure names the limit and the
node at which it would have gone on. One that is not cut off is the same, in all that is published,
asked and kept and in its result, under every limit that its visits do not exceed, and in particular
under every larger one; and one whose last visit is to an end node is complete. -/
theorem execute_limited {σ : Type} (respond : Program.Responder EngineCall EngineCall.Reply σ)
    (now : Timestamp) (settings : WorkflowSettings) {start : Node} (only : w.starts = [start])
    {limit : Nat} (positive : 0 < limit) (asked : Value) (execution : String) (given : Context)
    (s : σ) :
    let limited (limit : Nat) : WorkflowSettings := { settings with maxVisits := limit }
    let program (limit : Nat) := w.execute now (limited limit) asked execution given
    let es := (program limit).trace respond s
    ∃ ts failing reached,
      w.Traversal (limited limit) (w.presets.overlay given) ts failing reached ∧
      published es = [⟨execution, asked, now, .started w.nodes.length⟩] ++
        ts.map (fun t => ⟨execution, .text w.id, now, t.happening⟩) ++
        [⟨execution, asked, now, .finished (.ofResult reached.2)⟩] ∧
      answered es = (ts ++ failing.toList).flatMap Stop.calls ∧
      kept es = [recordOf now asked execution reached] ∧
      ((program limit).run respond s).1 =
        .ofConclusion execution reached.1 (.ofResult reached.2) ∧
      (ts ++ failing.toList).length ≤ limit ∧
      (∀ f, failing = none ∧ reached.2 = .error f ↔
        ∃ m, w.CutOff limit ts m ∧ f = .visitLimit w.id limit m.id) ∧
      ((∀ m, ¬ w.CutOff limit ts m) → ∀ other, (ts ++ failing.toList).length ≤ other →
        (program other).run respond s = (program limit).run respond s ∧
          (program other).trace respond s = es) ∧
      ∀ last, ts.getLast? = some last → last.node.kind = .finish →
        reached.2 = .ok (.completed last.node.id) := by
  intro limited program es
  -- All that is said about the execution is read off its traversal.
  obtain ⟨ms, run, traced⟩ := runs_run respond (program limit) s
  obtain ⟨ts, failing, reached, traversal, told, called, keeps, result, again⟩ :=
    runs_execute_again run
  rw [traced] at told called keeps
  obtain ⟨n, itinerary⟩ : ∃ n, w.Itinerary (limited limit) limit n (w.presets.overlay given)
      ts failing reached := by
    cases traversal with
    | unstarted none => simp [only] at none
    | walked _ itinerary => exact ⟨_, itinerary⟩
  have cut (f : Failure) : failing = none ∧ reached.2 = .error f ↔
      ∃ m, w.CutOff limit ts m ∧ f = .visitLimit w.id limit m.id := by
    constructor
    · rintro ⟨unfailing, fails⟩
      obtain ⟨full, m, named, -, at_last⟩ := itinerary.cutOff_of_error unfailing fails
      cases is_last : ts.getLast? with
      | none =>
        rw [List.getLast?_eq_none_iff.mp is_last] at full
        exact absurd full (Nat.ne_of_lt positive)
      | some last => exact ⟨m, ⟨full, last, is_last, at_last last is_last⟩, named⟩
    · rintro ⟨m, ⟨full, last, is_last, -, named, found⟩, rfl⟩
      exact itinerary.error_of_cutOff full is_last named found
  refine ⟨ts, failing, reached, traversal, told, called, keeps, result, itinerary.length_le, cut,
    ?_, fun last is_last finish => (itinerary.completed is_last finish).2⟩
  intro uncut other enough
  -- A walk without a failing visit that failed all the same would have been cut off.
  have unlimited : Unlimited failing reached := by
    intro unfailing
    cases ended : reached.2 with
    | ok outcome => exact ⟨outcome, rfl⟩
    | error f =>
      obtain ⟨m, cut_off, -⟩ := (cut f).mp ⟨unfailing, ended⟩
      exact absurd cut_off (uncut m)
  obtain ⟨same, sameTrace⟩ := (again unlimited other enough).eq_run
  exact ⟨same, sameTrace.trans traced⟩

/-- A workflow of a start node, an action and an end node. -/
def threeNodes : Workflow where
  id := "wf-1"
  name := "Three"
  description := none
  nodes := [
    { id := "start", kind := .start, label := "", config := [],
      connections := { next := some "act" }, rawKind := none },
    { id := "act", kind := .action, label := "", config := [],
      connections := { next := some "end" }, rawKind := none },
    { id := "end", kind := .finish, label := "", config := [], connections := {},
      rawKind := none }]
  presets := []
  trigger := none
  createdAt := none
  updatedAt := none

/-- Three nodes are too many for a limit of two, and a limit of three is as good as one of a
thousand. -/
theorem execute_limited_sample :
    let limited (limit : Nat) : WorkflowSettings :=
      { (default : WorkflowSettings) with maxVisits := limit }
    let result (limit : Nat) := ((threeNodes.execute default (limited limit) "wf-1" "exec" []).run
      (Collaborators.idle threeNodes).respond { hidden := () }).1
    (∃ start, threeNodes.starts = [start]) ∧ 0 < 3 ∧
      result 2 = .failed "exec" (Failure.message (.visitLimit "wf-1" 2 "end")) ∧
      result 3 = .stopped "exec" [] (.completed "end") ∧ result 1000 = result 3 := by
  intro limited result
  have only : threeNodes.starts = [_] := rfl
  have complete : result 3 = .stopped "exec" [] (.completed "end") := rfl
  obtain ⟨ts, failing, reached, -, -, -, -, ended, few, cut, again, -⟩ :=
    execute_limited (Collaborators.idle threeNodes).respond default default only (by decide : 0 < 3)
      "wf-1" "exec" [] { hidden := () }
  -- An execution that was cut off would have failed.
  have uncut : ∀ m, ¬ threeNodes.CutOff 3 ts m := by
    intro m cut_off
    obtain ⟨-, fails⟩ := (cut _).mpr ⟨m, cut_off, rfl⟩
    rw [fails] at ended
    cases complete.symm.trans ended
  refine ⟨⟨_, only⟩, by decide, rfl, complete, ?_⟩
  exact congrArg Prod.fst (again uncut 1000 (few.trans (by decide))).1

end Fulfilment.Workflow
