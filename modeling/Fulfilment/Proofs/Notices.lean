import Fulfilment.Proofs.Calls
import Fulfilment.Proofs.Diary
import Fulfilment.Proofs.Parallel
import Mathlib.Data.List.Forall2

/-!
# Notices to customers

Whether a customer can be reached has no influence on orders. Two diaries with the same operations,
written at desks that differ in what the service replies that tells customers, show the same work of
the desk and end in the same state, and their results are the same up to the warnings that a
confirmation leaves in a report. Where a report tells of the confirmation, it does so with the
warning that belongs to the reply, in one place, and all around it is the same.

## Main definitions

* `Unheard` - the desk at which notices are answered in any way
* `addedWarnings` - the warnings that confirmations add
* `AlikeBut`, `Report.Alike`, `OperationResult.Alike` - warnings, reports and results that differ in
  these alone

## Main results

* `Processing.Level.run` - steps that are level on two runs make up a level pipeline
* `parallel_process`, `parallel_cancel`, `parallel_batch` - two desks side by side
* `diaries_alike` - diaries at two desks
-/

namespace Fulfilment

open Program Processing

/-- The desk at which notices are answered in any way, and leave the state alone. All other calls
are answered by a responder. -/
abbrev Unheard {σ : Type} (respond : Responder DeskCall DeskCall.Reply σ) : DeskEnvironment σ :=
  .heedless DeskCall.IsNotice respond

/-- Two programs at such a desk. -/
abbrev Beside {σ α : Type} (respond : Responder DeskCall DeskCall.Reply σ)
    (R : List DeskEvent → α → List DeskEvent → α → Prop) (p p' : DeskProgram α) : Prop :=
  Parallel DeskCall.IsNotice respond R p p'

/-- The warning that the reply to a confirmation adds to a report. -/
def confirmationWarning : Except Failure Bool → List String
  | .ok true => []
  | .ok false => ["Order confirmation could not be delivered"]
  | .error f => ["send_confirmation: " ++ f.message]

/-- The warnings that an event adds as a confirmation. -/
def addedWarning : DeskEvent → List String
  | ⟨.confirm .., reply⟩ => confirmationWarning reply
  | _ => []

/-- The warnings that the confirmations among some events add, in order. -/
def addedWarnings (es : List DeskEvent) : List String := es.flatMap addedWarning

/-- Whether two lists of warnings are the same but for some that were added in one place. -/
def AlikeBut (added added' ws ws' : List String) : Prop :=
  ∃ before after, ws = before ++ added ++ after ∧ ws' = before ++ added' ++ after

/-- Whether two reports are the same but for some added warnings, where none are as good as an empty
list of them. -/
structure Report.Alike (added added' : List String) (r r' : Report) : Prop where
  success : r'.success = r.success
  orderId : r'.orderId = r.orderId
  message : r'.message = r.message
  errors : r'.errors = r.errors
  warnings : AlikeBut added added' (r.warnings.getD []) (r'.warnings.getD [])

/-- Whether two outcomes are the same failure or related results. -/
inductive Outcomes {α : Type} (R : α → α → Prop) : Except Failure α → Except Failure α → Prop where
  | failed (f : Failure) : Outcomes R (.error f) (.error f)
  | reached {a a' : α} (related : R a a') : Outcomes R (.ok a) (.ok a')

/-- Whether the reports of two batches are the same but for the warnings that confirmations added.
What belongs to an order are the events up to the next pause. -/
inductive AlikeEach : List DeskEvent → List Report → List DeskEvent → List Report → Prop where
  | none : AlikeEach [] [] [] []
  | last {es es' : List DeskEvent} {r r' : Report} (unpaused : ∀ e ∈ es, ¬ e.1.IsPause)
      (unpaused' : ∀ e ∈ es', ¬ e.1.IsPause)
      (alike : r.Alike (addedWarnings es) (addedWarnings es') r') : AlikeEach es [r] es' [r']
  | next {es es' fs fs' : List DeskEvent} {r r' : Report} {rs rs' : List Report}
      (seconds : Binary64) (unpaused : ∀ e ∈ es, ¬ e.1.IsPause)
      (unpaused' : ∀ e ∈ es', ¬ e.1.IsPause)
      (alike : r.Alike (addedWarnings es) (addedWarnings es') r') (rest : AlikeEach fs rs fs' rs') :
      AlikeEach (es ++ ⟨.pause seconds, ()⟩ :: fs) (r :: rs) (es' ++ ⟨.pause seconds, ()⟩ :: fs')
        (r' :: rs')

/-- Whether what two operations have come to is the same but for the warnings that confirmations
added. A batch begins with the listing of its orders. -/
inductive OperationResult.Alike :
    List DeskEvent → OperationResult → List DeskEvent → OperationResult → Prop where
  | processed {es es' : List DeskEvent} {a a' : Except Failure Report}
      (alike : Outcomes (Report.Alike (addedWarnings es) (addedWarnings es')) a a') :
      Alike es (.processed a) es' (.processed a')
  | calledOff {es es' : List DeskEvent} (success : Bool) :
      Alike es (.calledOff success) es' (.calledOff success)
  | batched {es es' : List DeskEvent} {a a' : Except Failure (List Report)} (listing : DeskEvent)
      (alike : Outcomes (fun rs rs' => AlikeEach es rs es' rs') a a') :
      Alike (listing :: es) (.batched a) (listing :: es') (.batched a')

/-- Whether two entries tell of one operation at one time, with the same work of the desk, and of
results that are the same but for the warnings that confirmations added. -/
structure Entry.Alike {σ : Type} (e e' : Entry σ) : Prop where
  now : e'.now = e.now
  operation : e'.operation = e.operation
  work : heeded DeskCall.IsNotice (events e'.moments) = heeded DeskCall.IsNotice (events e.moments)
  result : OperationResult.Alike (events e.moments) e.result (events e'.moments) e'.result

variable {σ : Type} {respond : Responder DeskCall DeskCall.Reply σ} {now : Timestamp}
  {settings : OrderSettings} {o : Order} {id : Value} {es fs : List DeskEvent} {e : DeskEvent}
  {added added' ws ws' : List String}

/-! ### Added warnings -/

@[simp] theorem addedWarnings_nil : addedWarnings [] = [] := rfl

@[simp] theorem addedWarnings_cons :
    addedWarnings (e :: es) = addedWarning e ++ addedWarnings es := rfl

@[simp] theorem addedWarnings_append :
    addedWarnings (es ++ fs) = addedWarnings es ++ addedWarnings fs := List.flatMap_append

theorem addedWarning_of_not (not : ¬ e.1.IsNotice) : addedWarning e = [] := by
  obtain ⟨_ | _ | _ | _ | _, reply⟩ := e
  case confirm => exact absurd trivial not
  all_goals rfl

/-- The work of the desk adds no warning that tells of a confirmation. -/
theorem addedWarnings_eq_nil (work : ∀ e ∈ es, ¬ e.1.IsNotice) : addedWarnings es = [] :=
  List.flatMap_eq_nil_iff.mpr fun e mem => addedWarning_of_not (work e mem)

theorem alikeBut_refl (ws : List String) : AlikeBut [] [] ws ws := ⟨ws, [], by simp, by simp⟩

theorem alikeBut_added (ws : List String) : AlikeBut added added' (ws ++ added) (ws ++ added') :=
  ⟨ws, [], by simp, by simp⟩

theorem AlikeBut.append (h : AlikeBut added added' ws ws') (more : List String) :
    AlikeBut added added' (ws ++ more) (ws' ++ more) := by
  obtain ⟨before, after, rfl, rfl⟩ := h
  exact ⟨before, after ++ more, by simp, by simp⟩

theorem Report.Alike.refl (r : Report) : r.Alike [] [] r := ⟨rfl, rfl, rfl, rfl, alikeBut_refl _⟩

@[simp] theorem getD_someWarnings (ws : List String) : (someWarnings ws).getD [] = ws := by
  cases ws <;> rfl

namespace Processing

/-! ### Pipelines side by side -/

/-- Whether two runs are of one order and receipt and have gathered the same but for some added
warnings. Which steps they count as done does not matter. -/
structure RunAlike (added added' : List String) (r r' : Run) : Prop where
  order : r'.order = r.order
  receipt : r'.receipt = r.receipt
  warnings : AlikeBut added added' r.warnings r'.warnings

/-- Whether two steps have ended alike, with the same failure if they failed, and neither has sent a
confirmation. -/
def EndedAlike (added added' : List String) (es : List DeskEvent) (a : StepResult)
    (es' : List DeskEvent) (a' : StepResult) : Prop :=
  addedWarnings es = [] ∧ addedWarnings es' = [] ∧ a'.2 = a.2 ∧ RunAlike added added' a.1 a'.1

/-- Whether a step ends alike from runs that are alike. -/
def Level (respond : Responder DeskCall DeskCall.Reply σ) (action : Run → DeskProgram StepResult) :
    Prop :=
  ∀ {added added' r r'}, RunAlike added added' r r' →
    Beside respond (EndedAlike added added') (action r) (action r')

theorem RunAlike.warn {r r' : Run} (h : RunAlike added added' r r') (more : List String) :
    RunAlike added added' { r with warnings := r.warnings ++ more }
      { r' with warnings := r'.warnings ++ more } :=
  ⟨h.order, h.receipt, h.warnings.append more⟩

/-- Settling keeps runs alike. -/
theorem settle_alike (step : Step DeskCall DeskCall.Reply) {a a' : StepResult}
    (failed : a'.2 = a.2) (alike : RunAlike added added' a.1 a'.1) :
    (Pipeline.settle step a').2 = (Pipeline.settle step a).2 ∧
      RunAlike added added' (Pipeline.settle step a).1 (Pipeline.settle step a').1 := by
  obtain ⟨r, f⟩ := a
  obtain ⟨r', f'⟩ := a'
  obtain rfl : f' = f := failed
  unfold Pipeline.settle
  cases f' with
  | none => exact ⟨rfl, alike.order, alike.receipt, alike.warnings⟩
  | some f =>
    cases step.kind with
    | required => exact ⟨rfl, alike⟩
    | bestEffort => exact ⟨rfl, alike.warn _⟩

/-- Steps that are level make up a level pipeline. -/
theorem Level.run {ss : List (Step DeskCall DeskCall.Reply)}
    (each : ∀ s ∈ ss, Level respond s.action) : Level respond (Pipeline.run ss) := by
  intro added added' r r' alike
  induction ss generalizing r r' with
  | nil => exact parallel_done ⟨rfl, rfl, rfl, alike⟩
  | cons s ss ih =>
    rw [Pipeline.run_cons, Pipeline.run_cons]
    apply parallel_bind (each s List.mem_cons_self alike)
    rintro es a es' a' ⟨silent, silent', failed, alike⟩
    obtain ⟨failed, alike⟩ := settle_alike s failed alike
    generalize Pipeline.settle s a = b at failed alike
    generalize Pipeline.settle s a' = b' at failed alike
    obtain ⟨r, f⟩ := b
    obtain ⟨r', f'⟩ := b'
    obtain rfl : f' = f := failed
    -- The settled results have failed both or not, so both pipelines end here or go on.
    cases f' with
    | some f => exact parallel_done ⟨by simpa, by simpa, rfl, alike⟩
    | none =>
      refine (ih (fun s' mem => each s' (List.mem_cons_of_mem s mem)) alike).mono ?_
      rintro fs b fs' b' ⟨silent₂, silent₂', failed, alike⟩
      exact ⟨by simp [silent, silent₂], by simp [silent', silent₂'], failed, alike⟩

/-! ### The steps after the confirmation -/

theorem level_writeStatus (status : Status) : Level respond (writeStatus status) := by
  intro added added' r r' alike
  unfold writeStatus
  rw [alike.order]
  apply parallel_call (by exact fun notice => notice)
  intro reply
  cases reply with
  | error f => exact parallel_done ⟨rfl, rfl, rfl, alike⟩
  | ok w =>
    dsimp only
    split <;> exact parallel_done ⟨rfl, rfl, rfl, alike⟩

theorem level_writeLedger : Level respond writeLedger := by
  intro added added' r r' alike
  unfold writeLedger
  rw [alike.order]
  apply parallel_call (by exact fun notice => notice)
  intro reply
  cases reply with
  | error f => exact parallel_done ⟨rfl, rfl, rfl, alike⟩
  | ok w => exact parallel_done ⟨rfl, rfl, rfl, rfl, alike.receipt, alike.warnings⟩

theorem level_adjustInventory : Level respond adjustInventory := by
  intro added added' r r' alike
  unfold adjustInventory
  rw [alike.order]
  split
  · exact parallel_done ⟨rfl, rfl, rfl, alike⟩
  · have asks := (asks_adjustLines r.order.lines).mono fun c (stock : c.IsStock) =>
      stock.isWork.not_isNotice
    apply parallel_bind_of_asks asks
    intro es warnings work
    have silent := addedWarnings_eq_nil work
    -- Both runs gather the warnings of the lines, and then the mark is written for both.
    have warned := alike.warn warnings
    rw [alike.order] at warned
    refine (level_writeLedger warned).mono ?_
    rintro fs a fs' a' ⟨silent₁, silent₁', ended⟩
    exact ⟨by simp [silent, silent₁], by simp [silent, silent₁'], ended⟩

theorem level_notifyCompleted : Level respond notifyCompleted := by
  intro added added' r r' alike
  unfold notifyCompleted notify
  rw [alike.order]
  exact parallel_aside trivial fun reply reply' => parallel_done ⟨rfl, rfl, rfl, alike⟩

/-- The steps that follow on the confirmation. -/
theorem level_afterConfirmation (now : Timestamp) :
    Level respond (Pipeline.run ((steps now).drop 4)) := by
  apply Level.run
  intro s mem
  simp only [steps, List.drop_succ_cons, List.drop_zero, List.mem_cons, List.not_mem_nil,
    or_false] at mem
  rcases mem with rfl | rfl | rfl
  · exact level_adjustInventory
  · exact level_writeStatus .completed
  · exact level_notifyCompleted

/-- The run after the reply to its confirmation. -/
def confirmed (r : Run) : Except Failure Bool → Run
  | .ok true => { r with completed := r.completed ++ ["send_confirmation"] }
  | .ok false =>
    { r.warn "Order confirmation could not be delivered" with
      completed := r.completed ++ ["send_confirmation"] }
  | .error f => r.warn ("send_confirmation: " ++ f.message)

theorem order_confirmed (r : Run) (reply : Except Failure Bool) :
    (confirmed r reply).order = r.order := by
  rcases reply with f | (_ | _) <;> rfl

theorem warnings_confirmed (r : Run) (reply : Except Failure Bool) :
    (confirmed r reply).warnings = r.warnings ++ confirmationWarning reply := by
  rcases reply with f | (_ | _)
  · rfl
  · rfl
  · exact (List.append_nil _).symm

/-- After the receipt the order is confirmed, and whatever is replied, the next steps follow. -/
theorem run_afterReceipt (now : Timestamp) (r : Run) :
    Pipeline.run ((steps now).drop 3) r = .call (.confirm r.order.id r.receipt) fun reply =>
      Pipeline.run ((steps now).drop 4) (confirmed r reply) := by
  show Program.call _ _ = Program.call _ _
  congr 1
  funext reply
  rcases reply with f | (_ | _) <;> rfl

theorem confirmed_alike (r : Run) (reply reply' : Except Failure Bool) :
    RunAlike (confirmationWarning reply) (confirmationWarning reply') (confirmed r reply)
      (confirmed r reply') where
  order := by rcases reply with f | (_ | _) <;> rcases reply' with f' | (_ | _) <;> rfl
  receipt := by rcases reply with f | (_ | _) <;> rcases reply' with f' | (_ | _) <;> rfl
  warnings := by
    rw [warnings_confirmed, warnings_confirmed]
    exact alikeBut_added r.warnings

/-! ### Processing an order -/

/-- From the receipt on, two runs are alike but for what their confirmations added. -/
theorem parallel_afterReceipt (now : Timestamp) (r : Run) :
    Beside respond (fun es a es' a' => a'.2 = a.2 ∧
        RunAlike (addedWarnings es) (addedWarnings es') a.1 a'.1)
      (Pipeline.run ((steps now).drop 3) r) (Pipeline.run ((steps now).drop 3) r) := by
  rw [run_afterReceipt]
  apply parallel_aside trivial
  intro reply reply'
  refine (level_afterConfirmation now (confirmed_alike r reply reply')).mono ?_
  rintro es a es' a' ⟨silent, silent', failed, alike⟩
  exact ⟨failed, by simpa [silent, silent', addedWarning] using alike⟩

theorem parallel_steps (now : Timestamp) (r : Run) :
    Beside respond (fun es a es' a' => a'.2 = a.2 ∧
        RunAlike (addedWarnings es) (addedWarnings es') a.1 a'.1)
      (Pipeline.run (steps now) r) (Pipeline.run (steps now) r) := by
  rw [← List.take_append_drop 3 (steps now), Pipeline.run_append]
  apply parallel_bind_of_asks ((asks_opening now r).mono fun _ => DeskCall.IsWork.not_isNotice)
  rintro es ⟨r, f⟩ work
  have silent := addedWarnings_eq_nil work
  cases f with
  | some f =>
    exact parallel_done ⟨rfl, by simpa [silent] using ⟨rfl, rfl, alikeBut_refl r.warnings⟩⟩
  | none =>
    refine (parallel_afterReceipt now r).mono ?_
    rintro fs a fs' a' ⟨failed, alike⟩
    exact ⟨failed, by simpa [silent] using alike⟩

theorem parallel_complete (now : Timestamp) (o : Order) (id : Value) (warnings : List String) :
    Beside respond (fun es r es' r' => r.Alike (addedWarnings es) (addedWarnings es') r')
      (complete now o id warnings) (complete now o id warnings) := by
  apply parallel_bind (parallel_steps now _)
  rintro es ⟨r, f⟩ es' ⟨r', f'⟩ ⟨failed, alike⟩
  obtain rfl : f' = f := failed
  cases f' with
  | none =>
    apply parallel_done
    exact ⟨rfl, rfl, rfl, rfl, by simpa using alike.warnings⟩
  | some f =>
    have asks : (rollBack id).Asks (¬ DeskCall.IsNotice ·) :=
      ⟨by exact fun notice => notice, fun _ => trivial⟩
    apply parallel_map (parallel_of_asks asks)
    rintro fs - fs' - ⟨rfl, -, work⟩
    exact ⟨rfl, rfl, rfl, rfl, by simpa [addedWarnings_eq_nil work] using alike.warnings⟩

theorem parallel_processLoaded (now : Timestamp) (settings : OrderSettings) (o : Order)
    (id : Value) :
    Beside respond (fun es r es' r' => r.Alike (addedWarnings es) (addedWarnings es') r')
      (processLoaded now settings o id) (processLoaded now settings o id) := by
  unfold processLoaded
  split
  · exact parallel_done (.refl _)
  split
  · exact parallel_done (.refl _)
  have asks := (asks_review settings id).mono fun c (read : c.IsRead) => read.isWork.not_isNotice
  apply parallel_bind_of_asks asks
  intro es review work
  have silent := addedWarnings_eq_nil work
  split
  · refine (parallel_complete now o id review.warnings).mono ?_
    intro fs r fs' r' alike
    simpa [silent] using alike
  · apply parallel_done
    simpa [silent] using Report.Alike.refl _

theorem outcomes_about {r r' : Report} (id : Value) (alike : r.Alike added added' r') :
    Outcomes (Report.Alike added added') (r.about id) (r'.about id) := by
  cases id with
  | text id => exact .reached alike
  | _ => exact .failed _

/-- Processing an order at two desks. -/
theorem parallel_process (now : Timestamp) (settings : OrderSettings) (id : Value) :
    Beside respond
      (fun es a es' a' => Outcomes (Report.Alike (addedWarnings es) (addedWarnings es')) a a')
      (process now settings id) (process now settings id) := by
  apply parallel_call (by exact fun notice => notice)
  intro reply
  rcases reply with f | (_ | o | w)
  · exact parallel_done (outcomes_about id (.refl _))
  · exact parallel_done (outcomes_about id (.refl _))
  · apply parallel_map (parallel_processLoaded now settings o id)
    intro es r es' r' alike
    exact outcomes_about id alike
  · exact parallel_done (.failed _)

/-- Calling off an order at two desks. -/
theorem parallel_cancel (now : Timestamp) (settings : OrderSettings) (id reason : Value) :
    Beside respond (fun _ success _ success' => success' = success)
      (cancel now settings id reason) (cancel now settings id reason) := by
  apply parallel_call (by exact fun notice => notice)
  intro reply
  cases reply with
  | error f => exact parallel_done rfl
  | ok w =>
    dsimp only
    split
    · exact parallel_aside trivial fun reply reply' => parallel_done rfl
    · exact parallel_done rfl

/-! ### Batches and diaries -/

/-- Processing orders one after the other at two desks. -/
theorem parallel_processEach (now : Timestamp) (settings : OrderSettings) (ids : List Value) :
    Beside respond (fun es a es' a' => Outcomes (fun rs rs' => AlikeEach es rs es' rs') a a')
      (processEach now settings ids) (processEach now settings ids) := by
  induction ids with
  | nil => exact parallel_done (.reached .none)
  | cons id ids ih =>
    have asks := asks_process now settings id
    apply parallel_bind ((parallel_process now settings id).asked asks asks)
    rintro es a es' a' ⟨outcomes, unpaused, unpaused'⟩
    cases outcomes with
    | failed f => exact parallel_done (.failed f)
    | reached alike =>
      -- After a report there is a pause, unless this was the last order.
      cases ids with
      | nil =>
        apply parallel_done
        rw [List.append_nil, List.append_nil]
        exact .reached (.last unpaused unpaused' alike)
      | cons id' ids =>
        apply parallel_call (by exact fun pause => pause)
        intro _
        apply parallel_map ih
        intro fs b fs' b' rest
        cases rest with
        | failed f => exact .failed f
        | reached rest => exact .reached (.next settings.pause unpaused unpaused' alike rest)

/-- An operation at two desks. -/
theorem parallel_work (now : Timestamp) (settings : OrderSettings) (op : Operation) :
    Beside respond OperationResult.Alike (op.work now settings) (op.work now settings) := by
  cases op with
  | process id =>
    apply parallel_map (parallel_process now settings (.text id))
    intro es a es' a' alike
    exact .processed alike
  | cancel id reason =>
    apply parallel_map (parallel_cancel now settings (.text id) reason)
    rintro es success es' _ rfl
    exact .calledOff _
  | batch =>
    -- The listing is the first call, and the orders are processed in what follows on it.
    unfold Operation.work batch Program.map
    rw [Program.bind_call]
    apply parallel_call (by exact fun notice => notice)
    intro reply
    cases reply with
    | error f => exact parallel_done (.batched _ (.reached .none))
    | ok listed =>
      cases parts : listed.parts with
      | error f =>
        simp only [parts]
        exact parallel_done (.batched _ (.failed f))
      | ok ids =>
        simp only [parts]
        apply parallel_map (parallel_processEach now settings _)
        intro es a es' a' alike
        exact .batched _ alike

end Processing

/-- Notices have no influence on orders. Take two diaries of the same operations at the same times,
from one state, where notices were answered in any way. They end in one state, and entry by entry
the calls on the store and the printer and the replies to them are the same, and so are the results
but for the warnings that confirmations added. -/
theorem diaries_alike {respond : Timestamp → Responder DeskCall DeskCall.Reply σ}
    {es es' : List (Entry σ)} {s v v' : σ}
    (h : Diary (fun now => Unheard (respond now)) settings s es v)
    (h' : Diary (fun now => Unheard (respond now)) settings s es' v')
    (same : es'.map (fun e => (e.now, e.operation)) = es.map fun e => (e.now, e.operation)) :
    v' = v ∧ List.Forall₂ Entry.Alike es es' := by
  induction h generalizing es' v' with
  | blank s =>
    obtain rfl := List.map_eq_nil_iff.mp same
    cases h'
    exact ⟨rfl, .nil⟩
  | @entered e es s u v work _ ih =>
    cases h' with
    | blank s => cases same
    | @entered e' es' _ u' _ work' rest' =>
      simp only [List.map_cons, List.cons.injEq, Prod.mk.injEq] at same
      obtain ⟨⟨now, operation⟩, same⟩ := same
      rw [now, operation] at work'
      obtain ⟨rfl, calls, alike⟩ := parallel_work _ settings _ _ _ _ _ _ _ _ work work'
      obtain ⟨rfl, others⟩ := ih rest' same
      exact ⟨rfl, .cons ⟨now, operation, calls, alike⟩ others⟩

/-- The desk with a store in memory from which no customer can be reached. -/
def MemoryStore.muteDesk (now : Timestamp) : Responder DeskCall DeskCall.Reply MemoryStore
  | .confirm .., s => (.error (.raised .connection "unreachable"), s)
  | .tell .., s => (.error (.raised .connection "unreachable"), s)
  | c, s => MemoryStore.desk now c s

theorem unheard_desk {s u : MemoryStore} (h : Environment.of (MemoryStore.desk now) s e u) :
    Unheard (MemoryStore.desk now) s e u := by
  apply heedless_of (fun _ _ => rfl) _ h
  intro c s notice
  cases c <;> first | rfl | cases notice

theorem unheard_muteDesk {s u : MemoryStore} (h : Environment.of (MemoryStore.muteDesk now) s e u) :
    Unheard (MemoryStore.desk now) s e u := by
  apply heedless_of _ _ h
  · intro c not
    cases c <;> first | rfl | exact absurd trivial not
  · intro c s notice
    cases c <;> first | rfl | cases notice

/-- A diary in which an order is processed and then called off, as a responder has it. -/
theorem exists_diary_calledOff {respond : Responder DeskCall DeskCall.Reply MemoryStore}
    (env : Timestamp → DeskEnvironment MemoryStore) (settings : OrderSettings) (now : Timestamp)
    (id : String) (reason : Value) (s : MemoryStore) (report : Report)
    (le : ∀ s e u, Environment.of respond s e u → env now s e u)
    (reported : ((process now settings (.text id)).run respond s).1.toOption = some report)
    (taken : ((cancel now settings (.text id) reason).run respond
      ((process now settings (.text id)).run respond s).2).1 = true) :
    ∃ es v, Diary env settings s es v ∧
      es.map (fun e => (e.now, e.operation)) = [(now, .process id), (now, .cancel id reason)] ∧
      es.map (·.result) = [.processed (.ok report), .calledOff true] := by
  obtain ⟨ms, processed⟩ := exists_runs_report le reported
  obtain ⟨ns, calledOff, -⟩ := runs_run respond (cancel now settings (.text id) reason)
    ((process now settings (.text id)).run respond s).2
  rw [taken] at calledOff
  have first : Runs (env now) ((Operation.process id).work now settings) s ms
      (.processed (.ok report)) _ := runs_map_iff.mpr ⟨_, processed, rfl⟩
  have second : Runs (env now) ((Operation.cancel id reason).work now settings) _ ns
      (.calledOff true) _ := runs_map_iff.mpr ⟨_, calledOff.mono le, rfl⟩
  have diary : Diary env settings s
      [⟨now, .process id, ms, _⟩, ⟨now, .cancel id reason, ns, _⟩] _ :=
    .entered first (.entered second (.blank _))
  exact ⟨_, _, diary, rfl, rfl⟩

/-- At one desk the customer hears of an order that is processed and called off, and at the other
no notice goes out. -/
theorem diaries_alike_sample :
    let s := MemoryStore.sample 10 2
    let desk := fun now => Unheard (MemoryStore.desk now)
    let report : Report :=
      { success := true, orderId := "order-1", message := "Order processed successfully" }
    ∃ es es' v v', Diary desk {} s es v ∧ Diary desk {} s es' v' ∧
      es'.map (fun e => (e.now, e.operation)) = es.map (fun e => (e.now, e.operation)) ∧
      es.map (·.result) =
        [.processed (.ok { report with warnings := some [] }), .calledOff true] ∧
      es'.map (·.result) = [.processed (.ok { report with
        warnings := some ["send_confirmation: unreachable"] }), .calledOff true] ∧
      v' = v ∧ List.Forall₂ Entry.Alike es es' := by
  intro s desk report
  obtain ⟨es, v, diary, calls, results⟩ := exists_diary_calledOff desk {} default "order-1" .null s
    { report with warnings := some [] } (fun _ _ _ => unheard_desk) (by decide +kernel)
    (by decide +kernel)
  obtain ⟨es', v', diary', calls', results'⟩ := exists_diary_calledOff desk {} default "order-1"
    .null s { report with warnings := some ["send_confirmation: unreachable"] }
    (fun _ _ _ => unheard_muteDesk) (by decide +kernel) (by decide +kernel)
  have same := calls'.trans calls.symm
  exact ⟨es, es', v, v', diary, diary', same, results, results', diaries_alike diary diary' same⟩

end Fulfilment
