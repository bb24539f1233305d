import Fulfilment.Proofs.MemoryDesk
import Fulfilment.Rehearsal.Desk

/-!
# What a pipeline does

A pipeline takes its steps in order. It ends after the first required step that fails, with the
failure of this step, or after the last of its steps. Its log consists of what each step that was
taken has added to the warnings, of a complaint for each of them that was done on a best effort and
failed, and of the names of those that did not fail. The log is the same whether the pipeline comes
to its end or breaks off.

## Main definitions

* `Run.Extends`, `Step.Appends` - whether a step does nothing to the log but to add warnings
* `Pipeline.Leg` - a step as it is taken
* `Pipeline.InRow` - whether some steps are taken one after the other
* `Pipeline.Journey` - whether some legs are those of a pipeline, and account for its result

## Main results

* `Pipeline.exists_inRow` - the legs of a pipeline
* `Pipeline.InRow.log` - the log after some legs
* `Pipeline.exists_journey` - the journey of every pipeline
* `Processing.appends_of_mem_steps` - the steps of processing an order only add warnings
-/

namespace Fulfilment

open Program

variable {Call : Type} {Reply : Call → Type} {σ : Type}

/-- Whether the log of a run is that of another with further warnings. -/
structure Run.Extends (r r' : Run) : Prop where
  warnings : r.warnings <+: r'.warnings
  completed : r'.completed = r.completed

/-- Whether a step, at whatever run it finds, does nothing to the log but to add warnings, whether
or not it fails. -/
def Step.Appends (respond : Responder Call Reply σ) (step : Step Call Reply) : Prop :=
  ∀ (r : Run) (s : σ), r.Extends ((step.action r).run respond s).1.1

namespace Pipeline

/-- A step as it is taken, with what it finds. -/
structure Leg (Call : Type) (Reply : Call → Type) (σ : Type) where
  /-- The step. -/
  step : Step Call Reply
  /-- The run before the step. -/
  found : Run
  /-- The state before the step. -/
  state : σ

namespace Leg

variable (respond : Responder Call Reply σ) (l : Leg Call Reply σ)

/-- What the step leaves behind, and the state after it. -/
def left : StepResult × σ := (l.step.action l.found).run respond l.state

/-- The calls that the step makes, with the replies to them. -/
def calls : List (Event Call Reply) := (l.step.action l.found).trace respond l.state

/-- The failure of the step. -/
def failure? : Option Failure := (l.left respond).1.2

/-- The failure of the step, if it is required. -/
def fatal? : Option Failure := if l.step.kind = .required then l.failure? respond else none

/-- The warnings that the step adds. -/
def added : List String := (l.left respond).1.1.warnings.drop l.found.warnings.length

/-- The complaint about a step on a best effort that fails. -/
def complaint : List String :=
  if l.step.kind = .bestEffort then
    (l.failure? respond).toList.map fun f => l.step.name ++ ": " ++ f.message
  else []

/-- The name of a step that does not fail. -/
def credit : List String := if l.failure? respond = none then [l.step.name] else []

/-- The run after the step. -/
def handedOn : Run :=
  let r := (l.left respond).1.1
  { r with
    warnings := r.warnings ++ l.complaint respond
    completed := r.completed ++ l.credit respond }

end Leg

/-- Whether some steps are taken one after the other: each finds what the one before it has handed
on. -/
def InRow (respond : Responder Call Reply σ) :
    Run × σ → List (Leg Call Reply σ) → Run × σ → Prop
  | x, [], y => y = x
  | x, l :: ls, y =>
    (l.found, l.state) = x ∧ InRow respond (l.handedOn respond, (l.left respond).2) ls y

/-- Whether some legs are those of a pipeline, and account for its result. They are the legs of all
its steps, or of the steps up to the first required one that fails. -/
structure Journey (respond : Responder Call Reply σ) (steps : List (Step Call Reply)) (r : Run)
    (s : σ) (legs : List (Leg Call Reply σ)) (a : StepResult) (v : σ) : Prop where
  inRow : InRow respond (r, s) legs (a.1, v)
  calls : (run steps r).trace respond s = legs.flatMap (·.calls respond)
  extent :
    (legs.map (·.step) = steps ∧ (∀ l ∈ legs, l.fatal? respond = none) ∧ a.2 = none) ∨
    ∃ earlier last later f, legs = earlier ++ [last] ∧ legs.map (·.step) ++ later = steps ∧
      (∀ l ∈ earlier, l.fatal? respond = none) ∧ last.fatal? respond = some f ∧ a.2 = some f
  warnings : a.1.warnings =
    r.warnings ++ legs.flatMap fun l => l.added respond ++ l.complaint respond
  completed : a.1.completed = r.completed ++
    (legs.filter fun l => l.failure? respond = none).map fun l => l.step.name

variable {respond : Responder Call Reply σ} {l : Leg Call Reply σ} {ls : List (Leg Call Reply σ)}
  {steps : List (Step Call Reply)} {r : Run} {s v : σ} {x y : Run × σ}

/-! ### One step -/

theorem settle_left :
    settle l.step (l.left respond).1 = (l.handedOn respond, l.fatal? respond) := by
  rcases left : (l.left respond).1 with ⟨r, _ | f⟩ <;> cases kind : l.step.kind <;>
    simp [settle, Leg.handedOn, Leg.fatal?, Leg.failure?, Leg.complaint, Leg.credit, Run.warn, left,
      kind]

theorem Leg.warnings_left (appends : l.step.Appends respond) :
    (l.left respond).1.1.warnings = l.found.warnings ++ l.added respond := by
  obtain ⟨added, warnings⟩ := (appends l.found l.state).warnings
  have left : (l.left respond).1.1.warnings = l.found.warnings ++ added := warnings.symm
  rw [Leg.added, left, List.drop_left]

/-! ### Steps in a row -/

variable (respond) in
/-- A pipeline takes its steps in a row, up to the first required one that fails. -/
theorem exists_inRow (steps : List (Step Call Reply)) (r : Run) (s : σ) :
    ∃ legs, InRow respond (r, s) legs (((run steps r).run respond s).1.1,
        ((run steps r).run respond s).2) ∧
      (run steps r).trace respond s = legs.flatMap (·.calls respond) ∧
      ((legs.map (·.step) = steps ∧ (∀ l ∈ legs, l.fatal? respond = none) ∧
          ((run steps r).run respond s).1.2 = none) ∨
        ∃ earlier last later f, legs = earlier ++ [last] ∧ legs.map (·.step) ++ later = steps ∧
          (∀ l ∈ earlier, l.fatal? respond = none) ∧ last.fatal? respond = some f ∧
          ((run steps r).run respond s).1.2 = some f) := by
  induction steps generalizing r s with
  | nil => exact ⟨[], rfl, rfl, .inl ⟨rfl, by simp, rfl⟩⟩
  | cons step steps ih =>
    let l : Leg Call Reply σ := ⟨step, r, s⟩
    have left : (step.action r).run respond s = l.left respond := rfl
    have settled : settle step (l.left respond).1 = (l.handedOn respond, l.fatal? respond) :=
      settle_left
    rw [run_cons, run_bind, trace_bind, left, settled]
    cases fatal : l.fatal? respond with
    | some f =>
      -- The pipeline ends here, and this leg is its only one.
      exact ⟨[l], ⟨rfl, rfl⟩, rfl, .inr ⟨[], l, steps, f, rfl, rfl, by simp, fatal, rfl⟩⟩
    | none =>
      obtain ⟨legs, row, calls, extent⟩ := ih (l.handedOn respond) (l.left respond).2
      refine ⟨l :: legs, ⟨rfl, row⟩, ?_, ?_⟩
      · rw [List.flatMap_cons, ← calls]
        rfl
      · rcases extent with
          ⟨rfl, unbroken, whole⟩ | ⟨earlier, last, later, f, rfl, rfl, unbroken, ends⟩
        · exact .inl ⟨rfl, List.forall_mem_cons.mpr ⟨fatal, unbroken⟩, whole⟩
        · exact .inr ⟨l :: earlier, last, later, f, rfl, rfl,
            List.forall_mem_cons.mpr ⟨fatal, unbroken⟩, ends⟩

/-- After some legs the log holds, besides what was in it, what each of them has added. -/
theorem InRow.log (row : InRow respond x ls y) (each : ∀ l ∈ ls, l.step.Appends respond) :
    y.1.warnings = x.1.warnings ++ (ls.flatMap fun l => l.added respond ++ l.complaint respond) ∧
    y.1.completed = x.1.completed ++
      (ls.filter fun l => l.failure? respond = none).map fun l => l.step.name := by
  induction ls generalizing x with
  | nil =>
    obtain rfl := row
    simp
  | cons l ls ih =>
    obtain ⟨rfl, row⟩ := row
    obtain ⟨appends, others⟩ := List.forall_mem_cons.mp each
    obtain ⟨warnings, completed⟩ := ih row others
    have kept : (l.left respond).1.1.completed = l.found.completed :=
      (appends l.found l.state).completed
    constructor
    · simp [warnings, Leg.handedOn, Leg.warnings_left appends]
    · by_cases failure : l.failure? respond = none <;>
        simp [completed, Leg.handedOn, Leg.credit, kept, failure]

/-- Every pipeline whose steps only add warnings takes the legs of a journey, which account for its
result. -/
theorem exists_journey (each : ∀ step ∈ steps, step.Appends respond) (r : Run) (s : σ) :
    ∃ legs, Journey respond steps r s legs ((run steps r).run respond s).1
      ((run steps r).run respond s).2 := by
  obtain ⟨legs, row, calls, extent⟩ := exists_inRow respond steps r s
  have subset : ∀ l ∈ legs, l.step ∈ steps := by
    intro l mem
    have step : l.step ∈ legs.map (·.step) := List.mem_map_of_mem mem
    rcases extent with ⟨rfl, -⟩ | ⟨-, -, later, -, -, rfl, -⟩
    · exact step
    · exact List.mem_append_left later step
  obtain ⟨warnings, completed⟩ := row.log fun l mem => each l.step (subset l mem)
  exact ⟨legs, row, calls, extent, warnings, completed⟩

end Pipeline

/-! ### The steps of processing an order -/

namespace Processing

variable {env : DeskEnvironment σ} {now : Timestamp} {r : Run} {s v : σ}
  {ms : List (DeskMoment σ)} {a : StepResult}

theorem extends_sendConfirmation (h : Runs env (sendConfirmation r) s ms a v) :
    r.Extends a.1 := by
  obtain ⟨reply, u, ns, -, rest, -⟩ := runs_call_iff.mp h
  rcases reply with f | (_ | _) <;> obtain ⟨-, rfl, -⟩ := runs_done_iff.mp rest
  · exact ⟨List.prefix_rfl, rfl⟩
  · exact ⟨List.prefix_append _ _, rfl⟩
  · exact ⟨List.prefix_rfl, rfl⟩

theorem extends_adjustInventory (h : Runs env (adjustInventory r) s ms a v) :
    r.Extends a.1 := by
  cases marked : r.order.stockAdjusted.truthy with
  | true =>
    simp only [adjustInventory, marked, if_true] at h
    obtain ⟨-, rfl, -⟩ := runs_done_iff.mp h
    exact ⟨List.prefix_rfl, rfl⟩
  | false =>
    simp only [adjustInventory, marked, Bool.false_eq_true, if_false] at h
    obtain ⟨ms₁, warnings, u, ms₂, -, written, -⟩ := runs_bind_iff.mp h
    obtain ⟨reply, w, ns, -, last, -⟩ := runs_call_iff.mp written
    -- What is known of the lines is kept even if the ledger mark is not written.
    cases reply <;> obtain ⟨-, rfl, -⟩ := runs_done_iff.mp last <;>
      exact ⟨List.prefix_append _ warnings, rfl⟩

/-- The steps of processing only add warnings, whatever is replied. -/
theorem appends_of_mem_steps {respond : Responder DeskCall DeskCall.Reply σ}
    {step : Step DeskCall DeskCall.Reply} (mem : step ∈ steps now) : step.Appends respond := by
  intro r s
  obtain ⟨ms, run, -⟩ := runs_run respond (step.action r) s
  generalize ((step.action r).run respond s).1 = a at run
  simp only [steps, List.mem_cons, List.not_mem_nil, or_false] at mem
  have still : a.1 = r → r.Extends a.1 := fun same => ⟨same ▸ List.prefix_rfl, same ▸ rfl⟩
  rcases mem with rfl | rfl | rfl | rfl | rfl | rfl | rfl
  · obtain ⟨-, -, -, same, -⟩ := runs_markValidated run
    exact still same
  · obtain ⟨-, -, -, same, -⟩ := runs_writeStatus run
    exact still same
  · obtain ⟨-, -, -, ⟨-, -, rfl⟩ | ⟨-, -, rfl⟩⟩ := runs_printReceipt run <;>
      exact ⟨List.prefix_rfl, rfl⟩
  · exact extends_sendConfirmation run
  · exact extends_adjustInventory run
  · obtain ⟨-, -, -, same, -⟩ := runs_writeStatus run
    exact still same
  · obtain ⟨-, -, -, rfl⟩ := runs_notifyCompleted run
    exact still rfl

end Processing

namespace Rehearsal

/-- A desk at which no customer can be told, no product is found, and no order can be marked as
completed. -/
def Desk.gloomy : Desk where
  now := default
  store := .memory (.sample 10 2)
  faults := [
    { method := .write, status := some (.text "completed")
      effect := .fail (.raised .connection "unreachable") },
    { method := .product, effect := .answer .null }]
  notifier := .outbox (fun _ => false) (fun _ => some (.raised .connection "refused"))

/-- The order at this desk, on its way with a warning of the review. -/
def Desk.gloomyRun : Run where
  order := ((MemoryStore.sample 10 2).order? "order-1").get rfl
  warnings := ["Stock is low for Desk Lamp"]

end Rehearsal

namespace Pipeline

open Processing Rehearsal

/-- At such a desk the way of an order breaks off where it is to be marked as completed. Of the
steps up to there only the confirmation is not credited, and its complaint stands before the warning
of the step after it. -/
theorem exists_journey_sample :
    let result := (run (steps default) Desk.gloomyRun).run Desk.respond Desk.gloomy
    (∀ step ∈ steps default, step.Appends Desk.respond) ∧
    result.1.2.map Failure.message = some "unreachable" ∧
    result.1.1.warnings = ["Stock is low for Desk Lamp", "send_confirmation: refused",
      "Product Desk Lamp not found while adjusting stock"] ∧
    result.1.1.completed =
      ["mark_validated", "mark_processing", "render_proof", "adjust_inventory"] ∧
    ∃ legs, Journey Desk.respond (steps default) Desk.gloomyRun Desk.gloomy legs result.1
      result.2 := by
  intro result
  have each : ∀ step ∈ steps default, step.Appends Desk.respond := fun step mem =>
    appends_of_mem_steps mem
  exact ⟨each, by decide +kernel, by decide +kernel, by decide +kernel, exists_journey each _ _⟩

end Pipeline

end Fulfilment
