import Fulfilment.Processing.Process
import Fulfilment.Proofs.Environment

/-!
# The course of processing an order

What the runs of `Processing.process` look like in any environment. An order that is loaded, open
and fit is attempted: it goes through the steps up to the first required one that fails, and then
back to pending, or through all of them. Whatever the collaborators reply, a run is one of the few
that are listed here, so a statement about processing is proved by going through the list. The runs
of `Processing.cancel` are listed as well.

## Main definitions

* `DeskEvent`, `DeskMoment`, `DeskEnvironment` - runs at the desk
* `taken` - whether a reply says that something was written
* `Status.IsOpen` - whether an order in this state is taken on
* `Processing.Adjustment` - the adjusting of the stock for an order
* `Processing.Passage`, `Processing.Closing` - the way of an order through the steps, and its end
* `Processing.Attempt` - the attempt at an order that is fit to process
* `Processing.Course` - the processing of an order
* `Processing.CallingOff` - the calling off of an order

## Main results

* `Processing.attempt_of_runs`, `Processing.course_of_runs`, `Processing.callingOff_of_runs` - every
  run is of these forms
* `Processing.asks_review` - a review only reads
-/

namespace Fulfilment

/-- A call at the desk with its reply. -/
abbrev DeskEvent := Program.Event DeskCall DeskCall.Reply

/-- An event at the desk and the state that it leads to. -/
abbrev DeskMoment (σ : Type) := Program.Moment DeskCall DeskCall.Reply σ

/-- Which events are allowed at the desk. -/
abbrev DeskEnvironment (σ : Type) := Program.Environment DeskCall DeskCall.Reply σ

/-- The event that a status was written, or that this was tried. -/
abbrev wrote (id : Value) (status : Status) (changes : List Change)
    (reply : Except Failure Value) : DeskEvent :=
  ⟨.store (.write id status changes), reply⟩

/-- The event that an order was looked for. -/
abbrev looked (id : Value) (reply : Except Failure (Found Order)) : DeskEvent :=
  ⟨.store (.find id), reply⟩

/-- Whether a reply says that something was written. -/
def taken : Except Failure Value → Bool
  | .ok v => v.truthy
  | .error _ => false

@[simp] theorem taken_ok (v : Value) : taken (.ok v) = v.truthy := rfl

@[simp] theorem taken_error (f : Failure) : taken (.error f) = false := rfl

/-- Whether processing takes an order in this state on. -/
def Status.IsOpen (s : Status) : Prop := s ≠ .cancelled ∧ s ≠ .completed

/-- Whether a call only reads the store. -/
def DeskCall.IsRead : DeskCall → Prop
  | .store (.find _) | .store (.product _) => True
  | _ => False

/-- Whether a call concerns the stock of a product. -/
def DeskCall.IsStock : DeskCall → Prop
  | .store (.product _) | .store (.setStock ..) => True
  | _ => False

namespace Processing

open Program

variable {σ : Type} {env : DeskEnvironment σ} {now : Timestamp} {settings : OrderSettings}
  {o : Order} {id : Value} {r : Run} {s t u v : σ} {ms : List (DeskMoment σ)} {a : StepResult}

/-! ### The steps -/

theorem runs_writeStatus {status : Status} (h : Runs env (writeStatus status r) s ms a v) :
    ∃ reply, env s (wrote r.order.id status [] reply) v ∧
      ms = [(wrote r.order.id status [] reply, v)] ∧ a.1 = r ∧
      (a.2 = none ↔ taken reply = true) := by
  obtain ⟨reply, u, ns, answered, rest, rfl⟩ := runs_call_iff.mp h
  refine ⟨reply, ?_⟩
  cases reply with
  | error f =>
    obtain ⟨rfl, rfl, rfl⟩ := runs_done_iff.mp rest
    exact ⟨answered, rfl, rfl, by simp⟩
  | ok w =>
    cases truth : w.truthy <;>
      simp only [truth, leave, if_true, if_false, Bool.false_eq_true] at rest
    all_goals
      obtain ⟨rfl, rfl, rfl⟩ := runs_done_iff.mp rest
      exact ⟨answered, rfl, rfl, by simp [truth]⟩

theorem runs_markValidated (h : Runs env (markValidated now r) s ms a v) :
    ∃ reply, env s (wrote r.order.id .validated [.validatedAt (.timestamp now)] reply) v ∧
      ms = [(wrote r.order.id .validated [.validatedAt (.timestamp now)] reply, v)] ∧ a.1 = r ∧
      (a.2 = none ↔ taken reply = true) := by
  obtain ⟨ms₁, w, u, ms₂, first, second, rfl⟩ := runs_bind_iff.mp h
  obtain ⟨reply, u, ns, answered, rest, rfl⟩ := runs_call_iff.mp first
  -- What is written is told by its truth alone, and a failure counts as nothing written.
  have told : ns = [] ∧ w.truthy = taken reply ∧ u = v ∧ a.1 = r ∧ ms₂ = [] ∧
      (a.2 = none ↔ w.truthy = true) := by
    cases reply <;> obtain ⟨rfl, rfl, rfl⟩ := runs_done_iff.mp rest <;> revert second <;>
      split <;> intro second <;> obtain ⟨rfl, rfl, rfl⟩ := runs_done_iff.mp second <;> simp_all
  obtain ⟨rfl, truth, rfl, same, rfl, failed⟩ := told
  exact ⟨reply, answered, rfl, same, truth ▸ failed⟩

theorem runs_printReceipt (h : Runs env (printReceipt r) s ms a v) :
    ∃ reply, env s ⟨.print r.order.id, reply⟩ v ∧ ms = [(⟨.print r.order.id, reply⟩, v)] ∧
      ((∃ receipt, reply = .ok receipt ∧ a = ({ r with receipt := some receipt }, none)) ∨
        ∃ f, reply = .error f ∧ a = (r, some f)) := by
  obtain ⟨reply, u, ns, answered, rest, rfl⟩ := runs_call_iff.mp h
  refine ⟨reply, ?_⟩
  cases reply <;> obtain ⟨rfl, rfl, rfl⟩ := runs_done_iff.mp rest <;>
    exact ⟨answered, rfl, by simp⟩

theorem runs_sendConfirmation (h : Runs env (sendConfirmation r) s ms a v) :
    ∃ reply, env s ⟨.confirm r.order.id r.receipt, reply⟩ v ∧
      ms = [(⟨.confirm r.order.id r.receipt, reply⟩, v)] ∧ a.1.order = r.order := by
  obtain ⟨reply, u, ns, answered, rest, rfl⟩ := runs_call_iff.mp h
  refine ⟨reply, ?_⟩
  rcases reply with f | (_ | _) <;> obtain ⟨rfl, rfl, rfl⟩ := runs_done_iff.mp rest <;>
    exact ⟨answered, rfl, rfl⟩

theorem runs_notifyCompleted (h : Runs env (notifyCompleted r) s ms a v) :
    ∃ reply, env s ⟨.tell r.order.id .completed, reply⟩ v ∧
      ms = [(⟨.tell r.order.id .completed, reply⟩, v)] ∧ a = (r, none) := by
  obtain ⟨_, first, rfl⟩ := runs_map_iff.mp h
  obtain ⟨reply, u, ns, answered, rest, rfl⟩ := runs_call_iff.mp first
  obtain ⟨rfl, -, rfl⟩ := runs_done_iff.mp rest
  exact ⟨reply, answered, rfl, rfl⟩

/-- For a line, the stock that was just read is written without the quantity of the line, unless
there is no such stock. -/
theorem runs_adjustLine {l : Line} {w : Option String} (h : Runs env (adjustLine l) s ms w v) :
    (∃ reply, env s ⟨.store (.product l.productId), reply⟩ v ∧
      ms = [(⟨.store (.product l.productId), reply⟩, v)] ∧
      ∀ p, reply = .ok (.entry p) → p.stock.without? l.quantity = none) ∨
    ∃ p rest reply u, env s ⟨.store (.product l.productId), .ok (.entry p)⟩ u ∧
      p.stock.without? l.quantity = some rest ∧
      env u ⟨.store (.setStock l.productId rest), reply⟩ v ∧
      ms = [(⟨.store (.product l.productId), .ok (.entry p)⟩, u),
        (⟨.store (.setStock l.productId rest), reply⟩, v)] := by
  obtain ⟨reply, u, ns, answered, after, rfl⟩ := runs_call_iff.mp h
  rcases reply with f | (_ | p | w)
  case ok.entry =>
    cases left : p.stock.without? l.quantity with
    | none =>
      simp only [left] at after
      obtain ⟨rfl, -, rfl⟩ := runs_done_iff.mp after
      refine .inl ⟨_, answered, rfl, fun q same => ?_⟩
      cases same
      exact left
    | some rest =>
      simp only [left] at after
      obtain ⟨reply, x, ns, written, last, rfl⟩ := runs_call_iff.mp after
      cases reply <;> obtain ⟨rfl, -, rfl⟩ := runs_done_iff.mp last <;>
        exact .inr ⟨p, rest, _, u, answered, left, written, rfl⟩
  all_goals
    obtain ⟨rfl, -, rfl⟩ := runs_done_iff.mp after
    exact .inl ⟨_, answered, rfl, fun q same => by cases same⟩

theorem asks_adjustLine {kind : DeskCall → Prop} {l : Line}
    (product : kind (.store (.product l.productId)))
    (stock : ∀ rest, kind (.store (.setStock l.productId rest))) : (adjustLine l).Asks kind := by
  refine ⟨product, fun reply => ?_⟩
  rcases reply with f | (_ | p | w)
  case ok.entry =>
    dsimp only
    split
    · trivial
    · exact ⟨stock _, fun reply => by cases reply <;> trivial⟩
  all_goals trivial

/-- The adjusting of lines asks for their products and writes the stock of these. -/
theorem asks_adjustLines_of_each {kind : DeskCall → Prop} {ls : List Line}
    (each : ∀ l ∈ ls, kind (.store (.product l.productId)) ∧
      ∀ rest, kind (.store (.setStock l.productId rest))) : (adjustLines ls).Asks kind := by
  induction ls with
  | nil => trivial
  | cons l ls ih =>
    obtain ⟨⟨product, stock⟩, others⟩ := List.forall_mem_cons.mp each
    exact asks_bind (asks_adjustLine product stock) fun _ => asks_map (ih others)

/-- The adjusting of lines concerns the stock alone. -/
theorem asks_adjustLines (ls : List Line) : (adjustLines ls).Asks DeskCall.IsStock :=
  asks_adjustLines_of_each fun _ _ => ⟨trivial, fun _ => trivial⟩

/-- The adjusting of the stock for an order: nothing for an order that bears the ledger mark, and
otherwise one line after the other, and then the mark. -/
inductive Adjustment (env : DeskEnvironment σ) (o : Order) :
    σ → List (DeskMoment σ) → σ → Prop where
  /-- The order bears the mark. -/
  | skipped {s : σ} (marked : o.stockAdjusted.truthy = true) : Adjustment env o s [] s
  /-- The lines are taken out of the stock, and the mark is written. -/
  | made {s u v : σ} {ms : List (DeskMoment σ)} {warnings : List String}
      (reply : Except Failure Value) (unmarked : o.stockAdjusted.truthy = false)
      (lines : Runs env (adjustLines o.lines) s ms warnings u)
      (mark : env u (wrote o.id .processing [.stockAdjusted (.bool true)] reply) v) :
      Adjustment env o s
        (ms ++ [(wrote o.id .processing [.stockAdjusted (.bool true)] reply, v)]) v

theorem runs_adjustInventory (h : Runs env (adjustInventory r) s ms a v) :
    Adjustment env r.order s ms v ∧ a.1.order.id = r.order.id := by
  cases marked : r.order.stockAdjusted.truthy with
  | true =>
    simp only [adjustInventory, marked, if_true] at h
    obtain ⟨rfl, rfl, rfl⟩ := runs_done_iff.mp h
    exact ⟨.skipped marked, rfl⟩
  | false =>
    simp only [adjustInventory, marked, Bool.false_eq_true, if_false] at h
    obtain ⟨ms₁, warnings, u, ms₂, lines, written, rfl⟩ := runs_bind_iff.mp h
    obtain ⟨reply, w, ns, mark, last, rfl⟩ := runs_call_iff.mp written
    cases reply <;> obtain ⟨rfl, rfl, rfl⟩ := runs_done_iff.mp last <;>
      exact ⟨.made _ marked lines mark, rfl⟩

/-! ### The pipeline -/

variable {step : Step DeskCall DeskCall.Reply} {later : List (Step DeskCall DeskCall.Reply)}

/-- A required step that fails ends the pipeline. -/
theorem runs_required (kind : step.kind = .required)
    (h : Runs env (Pipeline.run (step :: later) r) s ms a v) :
    ∃ ms₁ b u, Runs env (step.action r) s ms₁ b u ∧
      ((b.2 = none ∧ ∃ r' ms₂, r'.order = b.1.order ∧ r'.receipt = b.1.receipt ∧
          Runs env (Pipeline.run later r') u ms₂ a v ∧ ms = ms₁ ++ ms₂) ∨
        (b.2 ≠ none ∧ a.2 ≠ none ∧ v = u ∧ ms = ms₁)) := by
  rw [Pipeline.run_cons] at h
  obtain ⟨ms₁, ⟨r', f⟩, u, ms₂, first, second, rfl⟩ := runs_bind_iff.mp h
  refine ⟨ms₁, (r', f), u, first, ?_⟩
  cases f with
  | none =>
    exact .inl ⟨rfl, { r' with completed := r'.completed ++ [step.name] }, ms₂, rfl, rfl, second,
      rfl⟩
  | some f =>
    simp only [Pipeline.settle, kind] at second
    obtain ⟨rfl, rfl, rfl⟩ := runs_done_iff.mp second
    exact .inr ⟨by simp, by simp, rfl, by simp⟩

/-- After a step that is done on a best effort the pipeline goes on. -/
theorem runs_bestEffort (kind : step.kind = .bestEffort)
    (h : Runs env (Pipeline.run (step :: later) r) s ms a v) :
    ∃ ms₁ b u r' ms₂, Runs env (step.action r) s ms₁ b u ∧ r'.order = b.1.order ∧
      Runs env (Pipeline.run later r') u ms₂ a v ∧ ms = ms₁ ++ ms₂ := by
  rw [Pipeline.run_cons] at h
  obtain ⟨ms₁, ⟨r', f⟩, u, ms₂, first, second, rfl⟩ := runs_bind_iff.mp h
  cases f with
  | none =>
    exact ⟨ms₁, (r', none), u, { r' with completed := r'.completed ++ [step.name] }, ms₂, first,
      rfl, second, rfl⟩
  | some f =>
    simp only [Pipeline.settle, kind] at second
    exact ⟨ms₁, (r', some f), u, r'.warn (step.name ++ ": " ++ f.message), ms₂, first, rfl, second,
      rfl⟩

/-- The end of the way of an order through the steps, once its confirmation is sent: the stock is
adjusted, and the order is marked as completed. -/
inductive Closing (env : DeskEnvironment σ) (o : Order) :
    σ → List (DeskMoment σ) → Bool → σ → Prop where
  /-- The order is not marked as completed. -/
  | uncompleted {s u v : σ} {ms : List (DeskMoment σ)} {r : Except Failure Value}
      (adjusted : Adjustment env o s ms u) (completed : env u (wrote o.id .completed [] r) v)
      (refused : taken r = false) :
      Closing env o s (ms ++ [(wrote o.id .completed [] r, v)]) false v
  /-- The order is completed. -/
  | completed {s u t v : σ} {ms : List (DeskMoment σ)} {r : Except Failure Value}
      {n : Except Failure Bool} (adjusted : Adjustment env o s ms u)
      (completed : env u (wrote o.id .completed [] r) t) (accepted : taken r = true)
      (told : env t ⟨.tell o.id .completed, n⟩ v) :
      Closing env o s (ms ++ [(wrote o.id .completed [] r, t), (⟨.tell o.id .completed, n⟩, v)])
        true v

/-- The way of an order through the steps, and whether it comes to the end. It ends early where a
status is not taken or no receipt is printed; what becomes of the confirmation, the stock and the
last notice does not matter. -/
inductive Passage (env : DeskEnvironment σ) (now : Timestamp) (o : Order) :
    σ → List (DeskMoment σ) → Bool → σ → Prop where
  /-- The order is not marked as validated. -/
  | unvalidated {s v : σ} {r : Except Failure Value}
      (validated : env s (wrote o.id .validated [.validatedAt (.timestamp now)] r) v)
      (refused : taken r = false) :
      Passage env now o s [(wrote o.id .validated [.validatedAt (.timestamp now)] r, v)] false v
  /-- The order is not marked as being processed. -/
  | unmarked {s t v : σ} {r r' : Except Failure Value}
      (validated : env s (wrote o.id .validated [.validatedAt (.timestamp now)] r) t)
      (accepted : taken r = true) (marked : env t (wrote o.id .processing [] r') v)
      (refused : taken r' = false) :
      Passage env now o s [(wrote o.id .validated [.validatedAt (.timestamp now)] r, t),
        (wrote o.id .processing [] r', v)] false v
  /-- No receipt is printed. -/
  | unprinted {s t u v : σ} {r r' : Except Failure Value} {f : Failure}
      (validated : env s (wrote o.id .validated [.validatedAt (.timestamp now)] r) t)
      (accepted : taken r = true) (marked : env t (wrote o.id .processing [] r') u)
      (accepted' : taken r' = true) (printed : env u ⟨.print o.id, .error f⟩ v) :
      Passage env now o s [(wrote o.id .validated [.validatedAt (.timestamp now)] r, t),
        (wrote o.id .processing [] r', u), (⟨.print o.id, .error f⟩, v)] false v
  /-- The receipt is printed and sent. -/
  | printed {s t u w x v : σ} {r r' : Except Failure Value} (receipt : String)
      {c : Except Failure Bool} {ms : List (DeskMoment σ)} {success : Bool}
      (validated : env s (wrote o.id .validated [.validatedAt (.timestamp now)] r) t)
      (accepted : taken r = true) (marked : env t (wrote o.id .processing [] r') u)
      (accepted' : taken r' = true) (printed : env u ⟨.print o.id, .ok receipt⟩ w)
      (confirmed : env w ⟨.confirm o.id (some receipt), c⟩ x)
      (closing : Closing env o x ms success v) :
      Passage env now o s ((wrote o.id .validated [.validatedAt (.timestamp now)] r, t) ::
        (wrote o.id .processing [] r', u) :: (⟨.print o.id, .ok receipt⟩, w) ::
        (⟨.confirm o.id (some receipt), c⟩, x) :: ms) success v

/-- The steps after the receipt is printed. -/
theorem runs_afterReceipt (now : Timestamp) (loaded : r.order = o)
    (h : Runs env (Pipeline.run ((steps now).drop 3) r) s ms a v) :
    ∃ c x ns success, env s ⟨.confirm o.id r.receipt, c⟩ x ∧ Closing env o x ns success v ∧
      (a.2 = none ↔ success = true) ∧ ms = (⟨.confirm o.id r.receipt, c⟩, x) :: ns := by
  subst loaded
  -- A step on a best effort hands the order on, whatever is replied. Only the last mark can end the
  -- way here, so there is one case split.
  obtain ⟨ms₁, b₁, x, r₁, ms₂, first, same₁, h₁, rfl⟩ := runs_bestEffort rfl h
  obtain ⟨c, confirmed, rfl, unchanged₁⟩ := runs_sendConfirmation first
  rw [unchanged₁] at same₁
  obtain ⟨ns, b₂, y, r₂, ms₂, second, same₂, h₂, rfl⟩ := runs_bestEffort rfl h₁
  obtain ⟨adjusted, sameId⟩ := runs_adjustInventory second
  rw [same₁] at adjusted sameId
  rw [← same₂] at sameId
  obtain ⟨ms₁, b₃, z, third, ⟨ok₃, r₃, ms₂, same₃, -, h₃, rfl⟩ | ⟨failed, fails, rfl, rfl⟩⟩ :=
    runs_required rfl h₂
  all_goals
    obtain ⟨reply, completed, rfl, unchanged₃, truth⟩ := runs_writeStatus third
    rw [sameId] at completed
  case inr =>
    rw [sameId]
    have refused : taken reply = false := by simpa [truth] using failed
    exact ⟨c, x, _, false, confirmed, .uncompleted adjusted completed refused, by simpa using fails,
      rfl⟩
  rw [unchanged₃] at same₃
  obtain ⟨ms₁, b₄, w, r₄, ms₂, fourth, -, h₄, rfl⟩ := runs_bestEffort rfl h₃
  obtain ⟨n, told, rfl, -⟩ := runs_notifyCompleted fourth
  obtain ⟨rfl, rfl, rfl⟩ := runs_done_iff.mp h₄
  rw [same₃, sameId] at told
  rw [same₃, sameId]
  exact ⟨c, x, _, true, confirmed, .completed adjusted completed (truth.mp ok₃) told, by simp, rfl⟩

theorem passage_of_runs (loaded : r.order = o)
    (h : Runs env (Pipeline.run (steps now) r) s ms a v) :
    ∃ success, Passage env now o s ms success v ∧ (a.2 = none ↔ success = true) := by
  subst loaded
  -- Each required step takes off the case in which it ends the way, and the rest goes on.
  obtain ⟨ms₁, b₁, t, first, ⟨ok₁, r₁, ms₂, same₁, -, h₁, rfl⟩ | ⟨failed, fails, rfl, rfl⟩⟩ :=
    runs_required rfl h
  all_goals obtain ⟨reply₁, validated, rfl, unchanged₁, truth₁⟩ := runs_markValidated first
  case inr =>
    refine ⟨false, .unvalidated validated ?_, by simpa using fails⟩
    simpa [truth₁] using failed
  rw [unchanged₁] at same₁
  obtain ⟨ms₁, b₂, u, second, ⟨ok₂, r₂, ms₂, same₂, -, h₂, rfl⟩ | ⟨failed, fails, rfl, rfl⟩⟩ :=
    runs_required rfl h₁
  all_goals
    obtain ⟨reply₂, marked, rfl, unchanged₂, truth₂⟩ := runs_writeStatus second
    rw [same₁] at marked
  case inr =>
    rw [same₁]
    refine ⟨false, .unmarked validated (truth₁.mp ok₁) marked ?_, by simpa using fails⟩
    simpa [truth₂] using failed
  rw [unchanged₂, same₁] at same₂
  obtain ⟨ms₁, b₃, w, third, h₃⟩ := runs_required rfl h₂
  obtain ⟨reply₃, printed, rfl, ⟨receipt, rfl, rfl⟩ | ⟨f, rfl, rfl⟩⟩ := runs_printReceipt third
  all_goals rw [same₂] at printed
  case inr =>
    obtain ⟨ok₃, -⟩ | ⟨-, fails, rfl, rfl⟩ := h₃
    · cases ok₃
    · rw [same₁, same₂]
      exact ⟨false, .unprinted validated (truth₁.mp ok₁) marked (truth₂.mp ok₂) printed,
        by simpa using fails⟩
  obtain ⟨-, r₃, ms₂, same₃, printed₃, h₃, rfl⟩ | ⟨failed, -⟩ := h₃
  case inr => exact absurd rfl failed
  obtain ⟨c, x, ns, success, confirmed, closing, ended, rfl⟩ :=
    runs_afterReceipt now (same₃.trans same₂) h₃
  rw [printed₃] at confirmed
  rw [same₁, same₂, printed₃]
  exact ⟨success, .printed receipt validated (truth₁.mp ok₁) marked (truth₂.mp ok₂) printed
    confirmed closing, ended⟩

/-- The attempt at an order that is fit to process: it goes through the steps, and where it does
not come to their end it is made pending again, if the store takes it. -/
inductive Attempt (env : DeskEnvironment σ) (now : Timestamp) (o : Order) (id : Value) :
    σ → List (DeskMoment σ) → Bool → σ → Prop where
  /-- The order has come through the steps. -/
  | passed {s v : σ} {ms : List (DeskMoment σ)} (passage : Passage env now o s ms true v) :
      Attempt env now o id s ms true v
  /-- The order is to be pending again. -/
  | undone {s u v : σ} {ms : List (DeskMoment σ)} (r : Except Failure Value)
      (passage : Passage env now o s ms false u) (undo : env u (wrote id .pending [] r) v) :
      Attempt env now o id s (ms ++ [(wrote id .pending [] r, v)]) false v

/-- What the report says of an attempt. -/
def attemptMessage (success : Bool) : String :=
  if success then "Order processed successfully" else "Error processing order"

theorem attempt_of_runs {warnings : List String} {report : Report}
    (h : Runs env (complete now o id warnings) s ms report v) :
    Attempt env now o id s ms report.success v ∧
      report.message = attemptMessage report.success := by
  obtain ⟨ms₁, ⟨r, f⟩, u, ms₂, pipeline, last, rfl⟩ := runs_bind_iff.mp h
  obtain ⟨success, passage, ended⟩ := passage_of_runs rfl pipeline
  cases f with
  | none =>
    obtain rfl : success = true := ended.mp rfl
    obtain ⟨rfl, rfl, rfl⟩ := runs_done_iff.mp last
    rw [List.append_nil]
    exact ⟨.passed passage, rfl⟩
  | some f =>
    obtain rfl : success = false := by simpa using ended
    obtain ⟨_, undone, rfl⟩ := runs_map_iff.mp last
    obtain ⟨reply, w, ns, undo, rest, rfl⟩ := runs_call_iff.mp undone
    obtain ⟨rfl, -, rfl⟩ := runs_done_iff.mp rest
    exact ⟨.undone reply passage undo, rfl⟩

/-! ### The review and the whole course -/

/-- Holding lines against the stock asks for their products. -/
theorem asks_checkStock {kind : DeskCall → Prop} {factor : Binary64} {ls : List Line}
    (each : ∀ l ∈ ls, kind (.store (.product l.productId))) :
    (Validation.checkStock factor ls).atDesk.Asks kind := by
  induction ls with
  | nil => trivial
  | cons l ls ih =>
    obtain ⟨first, others⟩ := List.forall_mem_cons.mp each
    refine ⟨first, fun reply => ?_⟩
    cases reply with
    | error f => trivial
    | ok found =>
      dsimp only
      split
      · trivial
      · rw [Program.map, StoreProgram.atDesk_bind]
        exact asks_bind (ih others) fun _ => trivial

/-- A review only reads. -/
theorem asks_review (settings : OrderSettings) (id : Value) :
    (Validation.review settings id).atDesk.Asks DeskCall.IsRead := by
  refine ⟨trivial, fun reply => ?_⟩
  rcases reply with f | (_ | o | w)
  case ok.entry =>
    dsimp only
    split
    · trivial
    · rw [Program.map, StoreProgram.atDesk_bind]
      exact asks_bind (asks_checkStock fun _ _ => trivial) fun _ => trivial
  all_goals trivial

/-- The processing of an order, with the moments that it is made of and what is reported. -/
inductive Course (env : DeskEnvironment σ) (now : Timestamp) (settings : OrderSettings)
    (id : Value) : σ → List (DeskMoment σ) → Except Failure Report → σ → Prop where
  /-- The order cannot be loaded. -/
  | unread {s v : σ} {f : Failure} (loaded : env s (looked id (.error f)) v) :
      Course env now settings id s [(looked id (.error f), v)]
        ((refusal id "Error loading order" f.message).about id) v
  /-- There is no such order. -/
  | missing {s v : σ} (loaded : env s (looked id (.ok .nothing)) v) :
      Course env now settings id s [(looked id (.ok .nothing), v)]
        ((refusal id "Order not found" "Order not found").about id) v
  /-- The store answers with something else than an order. -/
  | unreadable {s v : σ} {w : Value} (loaded : env s (looked id (.ok (.other w))) v) :
      Course env now settings id s [(looked id (.ok (.other w)), v)]
        (.error (.noAttribute w.kindName "status")) v
  /-- The order is called off or completed. -/
  | closed {s v : σ} {o : Order} {report : Report} (loaded : env s (looked id (.ok (.entry o))) v)
      (closed : ¬ o.status.IsOpen) (success : report.success = decide (o.status = .completed)) :
      Course env now settings id s [(looked id (.ok (.entry o)), v)] (report.about id) v
  /-- The order is not fit to process. -/
  | unfit {s t v : σ} {o : Order} {review : Review} {ms : List (DeskMoment σ)} {report : Report}
      (loaded : env s (looked id (.ok (.entry o))) t) (isOpen : o.status.IsOpen)
      (reviewed : Runs env (Validation.review settings id).atDesk t ms review v)
      (unfit : review.isValid = false) (success : report.success = false)
      (message : report.message = "Order is not valid") :
      Course env now settings id s ((looked id (.ok (.entry o)), t) :: ms) (report.about id) v
  /-- The order is attempted. -/
  | attempted {s t u v : σ} {o : Order} {review : Review} {ms ns : List (DeskMoment σ)}
      {report : Report} (loaded : env s (looked id (.ok (.entry o))) t) (isOpen : o.status.IsOpen)
      (reviewed : Runs env (Validation.review settings id).atDesk t ms review u)
      (fit : review.isValid = true) (attempt : Attempt env now o id u ns report.success v)
      (message : report.message = attemptMessage report.success) :
      Course env now settings id s ((looked id (.ok (.entry o)), t) :: (ms ++ ns))
        (report.about id) v

theorem course_of_runs {a : Except Failure Report}
    (h : Runs env (process now settings id) s ms a v) : Course env now settings id s ms a v := by
  obtain ⟨reply, t, ns, loaded, rest, rfl⟩ := runs_call_iff.mp h
  rcases reply with f | (_ | o | w)
  -- Only an order leads further; any other reply ends the run at once.
  case ok.entry =>
    obtain ⟨report, work, rfl⟩ := runs_map_iff.mp rest
    unfold processLoaded at work
    split at work
    next cancelled =>
      obtain ⟨rfl, rfl, rfl⟩ := runs_done_iff.mp work
      have cancelled : o.status = .cancelled := by simpa [Status.isTerminal] using cancelled
      exact .closed loaded (fun h => h.1 cancelled) (by simp [refusal, cancelled])
    next notCancelled =>
    split at work
    next completed =>
      obtain ⟨rfl, rfl, rfl⟩ := runs_done_iff.mp work
      exact .closed loaded (fun h => h.2 completed) (by simp [completed])
    next notCompleted =>
    have isOpen : o.status.IsOpen := ⟨by simpa [Status.isTerminal] using notCancelled, notCompleted⟩
    obtain ⟨ms₁, review, u, ms₂, reviewed, last, rfl⟩ := runs_bind_iff.mp work
    cases fit : review.isValid <;> simp only [fit, if_true, if_false, Bool.false_eq_true] at last
    · obtain ⟨rfl, rfl, rfl⟩ := runs_done_iff.mp last
      rw [List.append_nil]
      exact .unfit loaded isOpen reviewed fit rfl rfl
    · obtain ⟨attempt, message⟩ := attempt_of_runs last
      exact .attempted loaded isOpen reviewed fit attempt message
  all_goals obtain ⟨rfl, rfl, rfl⟩ := runs_done_iff.mp rest
  · exact .unread loaded
  · exact .missing loaded
  · exact .unreadable loaded

/-! ### Calling off -/

/-- The calling off of an order, and whether it succeeds. The customer is told if the store takes
it. -/
inductive CallingOff (env : DeskEnvironment σ) (now : Timestamp) (settings : OrderSettings)
    (id reason : Value) : σ → List (DeskMoment σ) → Bool → σ → Prop where
  /-- The store does not take it. -/
  | refused {s v : σ} {r : Except Failure Value}
      (calledOff : env s (wrote id .cancelled
        [.cancelledAt (.timestamp now), .cancellationReason (reasonOr settings reason)] r) v)
      (refused : taken r = false) :
      CallingOff env now settings id reason s
        [(wrote id .cancelled
          [.cancelledAt (.timestamp now), .cancellationReason (reasonOr settings reason)] r, v)]
        false v
  /-- The customer is told. -/
  | told {s t v : σ} {r : Except Failure Value} {n : Except Failure Bool}
      (calledOff : env s (wrote id .cancelled
        [.cancelledAt (.timestamp now), .cancellationReason (reasonOr settings reason)] r) t)
      (accepted : taken r = true) (told : env t ⟨.tell id .cancelled, n⟩ v) :
      CallingOff env now settings id reason s
        [(wrote id .cancelled
          [.cancelledAt (.timestamp now), .cancellationReason (reasonOr settings reason)] r, t),
          (⟨.tell id .cancelled, n⟩, v)]
        true v

theorem callingOff_of_runs {reason : Value} {success : Bool}
    (h : Runs env (cancel now settings id reason) s ms success v) :
    CallingOff env now settings id reason s ms success v := by
  obtain ⟨reply, t, ns, calledOff, rest, rfl⟩ := runs_call_iff.mp h
  cases reply with
  | error f =>
    obtain ⟨rfl, rfl, rfl⟩ := runs_done_iff.mp rest
    exact .refused calledOff rfl
  | ok w =>
    dsimp only at rest
    split at rest
    next accepted =>
      obtain ⟨_, told, rfl⟩ := runs_map_iff.mp rest
      obtain ⟨n, u, ns', answered, last, rfl⟩ := runs_call_iff.mp told
      obtain ⟨rfl, -, rfl⟩ := runs_done_iff.mp last
      exact .told calledOff accepted answered
    next refused =>
      obtain ⟨rfl, rfl, rfl⟩ := runs_done_iff.mp rest
      exact .refused calledOff (Bool.eq_false_iff.mpr refused)

end Processing

end Fulfilment
