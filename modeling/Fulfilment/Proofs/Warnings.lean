import Fulfilment.Proofs.Notices

/-!
# Warnings about the stock

When the stock is adjusted for an order, its lines are posted one after the other, and then the
ledger mark. A posting that fails leaves a warning in the report of the order, with one exception:
where the store answers a write, the answer is not looked at. A store that says that it wrote
nothing is believed to have written. So each posting that fails has a warning of its own if and only
if no write is declined in this way.

## Main definitions

* `LineOutcome` - what becomes of a line
* `Posting` - what is posted for an order, with the calls that this takes and the warning that it
  leaves
* `Posting.IsMade`, `Posting.IsDeclined` - whether the store says that it wrote, or that it did not
* `Accounting` - whether postings are those for an order, and its warnings tell of them
* `Reviewed` - whether events begin with a review, and what comes out of it

## Main results

* `Posting.isSome_warning_iff` - which postings leave a warning
* `Processing.postings_of_adjustInventory` - the step that adjusts the stock
* `Processing.process_accounts` - what a report tells of the postings for its order
-/

namespace Fulfilment

open Program Processing

/-- Whether a call confirms an order to its customer. -/
def DeskCall.IsConfirmation : DeskCall → Prop
  | .confirm .. => True
  | _ => False

instance : DecidablePred DeskCall.IsConfirmation
  | .confirm .. => .isTrue trivial
  | .tell .. | .store _ | .print _ | .pause _ => .isFalse id

/-- The event that the product of a line was looked for. -/
abbrev sought (l : Line) (reply : Except Failure (Found Product)) : DeskEvent :=
  ⟨.store (.product l.productId), reply⟩

/-- What becomes of a line when the stock is adjusted. -/
inductive LineOutcome (l : Line) where
  /-- The product cannot be read. -/
  | unread (f : Failure)
  /-- There is no such product. -/
  | unknown
  /-- The store answers with something else than a product. -/
  | unreadable (v : Value)
  /-- The quantity of the line cannot be taken out of the stock of the product. -/
  | incalculable (p : Product) (stuck : p.stock.without? l.quantity = none)
  /-- What is left of the stock is written, or this is tried. -/
  | written (p : Product) (rest : Quantity) (left : p.stock.without? l.quantity = some rest)
      (reply : Except Failure Value)

/-- What is posted for an order. -/
inductive Posting where
  /-- A line is taken out of the stock. -/
  | line (l : Line) (outcome : LineOutcome l)
  /-- The ledger mark is written. -/
  | mark (id : Value) (reply : Except Failure Value)

namespace Posting

/-- The line that is posted. The ledger mark is none. -/
def line? : Posting → Option Line
  | line l _ => some l
  | mark .. => none

/-- The calls that a posting takes, with the replies to them. -/
def events : Posting → List DeskEvent
  | line l (.unread f) => [sought l (.error f)]
  | line l .unknown => [sought l (.ok .nothing)]
  | line l (.unreadable v) => [sought l (.ok (.other v))]
  | line l (.incalculable p _) => [sought l (.ok (.entry p))]
  | line l (.written p rest _ reply) =>
    [sought l (.ok (.entry p)), ⟨.store (.setStock l.productId rest), reply⟩]
  | mark id reply => [wrote id .processing [.stockAdjusted (.bool true)] reply]

/-- The reply to the write of a posting, if it comes to a write. -/
def reply? : Posting → Option (Except Failure Value)
  | line _ (.written _ _ _ reply) => some reply
  | line .. => none
  | mark _ reply => some reply

/-- Whether the store says that the posting is written. -/
def IsMade (p : Posting) : Prop := p.reply? = some (.ok (.bool true))

/-- Whether the store answers the write, but does not say that it is done. -/
def IsDeclined (p : Posting) : Prop := ∃ v, p.reply? = some (.ok v) ∧ v ≠ .bool true

/-- The warning that a posting leaves. -/
def warning : Posting → Option String
  | line l .unknown =>
    some ("Product " ++ l.productName.plain ++ " not found while adjusting stock")
  | line _ (.written _ _ _ (.ok _)) => none
  | line l _ => some (notUpdated l)
  | mark _ (.ok _) => none
  | mark _ (.error f) => some ("adjust_inventory: " ++ f.message)

end Posting

/-- Whether postings are those that some events hold for an order, right after it is confirmed: its
lines and then the ledger mark. To what had been noted before, the reply to the confirmation and the
postings add their warnings in order, and there are no others. -/
structure Accounting (o : Order) (noted : List String) (es : List DeskEvent)
    (warnings : List String) (ps : List Posting) : Prop where
  lines : ps.map Posting.line? = o.lines.map some ++ [none]
  course : ∃ before receipt reply after,
    es = before ++ ⟨.confirm o.id receipt, reply⟩ :: (ps.flatMap Posting.events ++ after) ∧
    warnings = noted ++ confirmationWarning reply ++ ps.filterMap Posting.warning

/-- Whether some events begin with a review of an order, and what comes out of it. -/
def Reviewed {σ : Type} (env : DeskEnvironment σ) (settings : OrderSettings) (id : Value)
    (es : List DeskEvent) (review : Review) : Prop :=
  ∃ s ms u, Runs env (Validation.review settings id).atDesk s ms review u ∧ events ms <+: es

variable {σ : Type} {env : DeskEnvironment σ} {now : Timestamp} {settings : OrderSettings}
  {o : Order} {r : Run} {s v : σ} {ms : List (DeskMoment σ)} {es fs : List DeskEvent}
  {noted warnings : List String} {p : Posting} {ps : List Posting}

/-! ### Postings and their warnings -/

/-- A posting leaves no warning without a failure. A failure leaves none only where the store has
answered the write. -/
theorem Posting.isSome_warning_iff : p.warning.isSome ↔ ¬ p.IsMade ∧ ¬ p.IsDeclined := by
  -- Of each posting the reply is known, and an answer says that it is made or declines it.
  rcases p with ⟨l, _ | _ | _ | _ | ⟨p, rest, left, f | v⟩⟩ | ⟨id, f | v⟩ <;>
    simp [Posting.warning, Posting.IsMade, Posting.IsDeclined, Posting.reply?]

/-- All postings that are not made leave a warning if and only if none is declined. -/
theorem Posting.forall_isSome_warning_iff :
    (∀ p ∈ ps, ¬ p.IsMade → p.warning.isSome) ↔ ∀ p ∈ ps, ¬ p.IsDeclined := by
  constructor
  · rintro told p mem ⟨v, answered, other⟩
    have unmade : ¬ p.IsMade := by
      intro made
      rw [Posting.IsMade, answered] at made
      cases made
      exact other rfl
    exact (isSome_warning_iff.mp (told p mem unmade)).2 ⟨v, answered, other⟩
  · intro undeclined p mem unmade
    exact isSome_warning_iff.mpr ⟨unmade, undeclined p mem⟩

theorem Accounting.prepend (h : Accounting o noted es warnings ps) (fs : List DeskEvent) :
    Accounting o noted (fs ++ es) warnings ps where
  lines := h.lines
  course := by
    obtain ⟨before, receipt, reply, after, rfl, told⟩ := h.course
    exact ⟨fs ++ before, receipt, reply, after, by simp, told⟩

theorem Accounting.append (h : Accounting o noted es warnings ps) (fs : List DeskEvent) :
    Accounting o noted (es ++ fs) warnings ps where
  lines := h.lines
  course := by
    obtain ⟨before, receipt, reply, after, rfl, told⟩ := h.course
    exact ⟨before, receipt, reply, after ++ fs, by simp, told⟩

/-! ### Pipelines -/

namespace Pipeline

variable {Call : Type} {Reply : Call → Type}

/-- What every step of a pipeline hands on as it was, the pipeline does. -/
theorem runs_keeps {α : Type} {env : Environment Call Reply σ} {ss : List (Step Call Reply)}
    {ms : List (Moment Call Reply σ)} {a : StepResult} (view : Run → α)
    (each : ∀ step ∈ ss, ∀ {r s ms a v}, Runs env (step.action r) s ms a v →
      view (settle step a).1 = view r)
    (h : Runs env (run ss r) s ms a v) : view a.1 = view r := by
  induction ss generalizing r s ms with
  | nil =>
    obtain ⟨-, rfl, -⟩ := runs_done_iff.mp h
    rfl
  | cons step ss ih =>
    rw [run_cons] at h
    obtain ⟨ms₁, b, u, ms₂, first, second, rfl⟩ := runs_bind_iff.mp h
    have kept := each step List.mem_cons_self first
    -- The pipeline ends with what this step settles, or goes on with it.
    generalize settle step b = c at kept second
    obtain ⟨r', _ | f⟩ := c
    · exact (ih (fun step mem => each step (List.mem_cons_of_mem _ mem)) second).trans kept
    · obtain ⟨-, rfl, -⟩ := runs_done_iff.mp second
      exact kept

theorem order_settle (step : Step Call Reply) (a : StepResult) :
    (settle step a).1.order = a.1.order := by
  obtain ⟨r, _ | f⟩ := a
  · rfl
  · cases kind : step.kind <;> simp [settle, kind, Run.warn]

/-- Settling adds a warning only for a step on a best effort that has failed. -/
theorem warnings_settle {step : Step Call Reply} {a : StepResult}
    (h : step.kind = .required ∨ a.2 = none) : (settle step a).1.warnings = a.1.warnings := by
  obtain ⟨r, _ | f⟩ := a
  · rfl
  · simp [settle, h.resolve_right (by simp)]

end Pipeline

/-! ### Notices among events -/

theorem DeskCall.IsConfirmation.isNotice {c : DeskCall} (h : c.IsConfirmation) : c.IsNotice := by
  cases c <;> trivial

/-- Some events hold a notice if and only if one part of them does. -/
theorem noticed_append_iff : (∃ e ∈ es ++ fs, e.1.IsNotice) ↔
    (∃ e ∈ es, e.1.IsNotice) ∨ ∃ e ∈ fs, e.1.IsNotice := by
  simp only [List.mem_append, or_and_right, exists_or]

namespace Processing

/-! ### The step that adjusts the stock -/

/-- A line is posted. -/
theorem posting_of_adjustLine {l : Line} {w : Option String}
    (h : Runs env (adjustLine l) s ms w v) :
    ∃ outcome : LineOutcome l, events ms = (Posting.line l outcome).events ∧
      w = (Posting.line l outcome).warning := by
  obtain ⟨reply, u, ns, -, after, rfl⟩ := runs_call_iff.mp h
  -- Only a product leads on to a write; any other reply is the outcome.
  rcases reply with f | (_ | p | v)
  case ok.entry =>
    cases left : p.stock.without? l.quantity with
    | none =>
      simp only [left] at after
      obtain ⟨rfl, rfl, -⟩ := runs_done_iff.mp after
      exact ⟨.incalculable p left, rfl, rfl⟩
    | some rest =>
      simp only [left] at after
      obtain ⟨reply, x, ns, -, last, rfl⟩ := runs_call_iff.mp after
      cases reply <;> obtain ⟨rfl, rfl, -⟩ := runs_done_iff.mp last <;>
        exact ⟨.written p rest left _, rfl, rfl⟩
  all_goals obtain ⟨rfl, rfl, -⟩ := runs_done_iff.mp after
  · exact ⟨.unread f, rfl, rfl⟩
  · exact ⟨.unknown, rfl, rfl⟩
  · exact ⟨.unreadable v, rfl, rfl⟩

/-- The lines are posted one after the other. -/
theorem postings_of_adjustLines {ls : List Line} {ws : List String}
    (h : Runs env (adjustLines ls) s ms ws v) :
    ∃ ps : List Posting, ps.map Posting.line? = ls.map some ∧
      events ms = ps.flatMap Posting.events ∧ ws = ps.filterMap Posting.warning := by
  induction ls generalizing s ms ws with
  | nil =>
    obtain ⟨rfl, rfl, -⟩ := runs_done_iff.mp h
    exact ⟨[], rfl, rfl, rfl⟩
  | cons l ls ih =>
    obtain ⟨ms₁, w, u, ms₂, first, second, rfl⟩ := runs_bind_iff.mp h
    obtain ⟨ws, others, rfl⟩ := runs_map_iff.mp second
    obtain ⟨outcome, calls, rfl⟩ := posting_of_adjustLine first
    obtain ⟨ps, lines, calls', rfl⟩ := ih others
    refine ⟨.line l outcome :: ps, ?_, ?_, ?_⟩
    · simp [Posting.line?, lines]
    · simp [calls, calls']
    · cases warned : (Posting.line l outcome).warning <;> simp [warned]

/-- The step that adjusts the stock. -/
abbrev adjusting : Step DeskCall DeskCall.Reply :=
  ⟨"adjust_inventory", .bestEffort, adjustInventory⟩

/-- The ledger mark is posted. The step does not fail for good, and the run goes on with the warning
that the mark leaves. -/
theorem posting_of_writeLedger {a : StepResult} (h : Runs env (writeLedger r) s ms a v) :
    ∃ (reply : Except Failure Value) (r' : Run),
      events ms = (Posting.mark r.order.id reply).events ∧
      Pipeline.settle adjusting a = (r', none) ∧
      r'.warnings = r.warnings ++ (Posting.mark r.order.id reply).warning.toList := by
  obtain ⟨reply, u, ns, -, last, rfl⟩ := runs_call_iff.mp h
  cases reply with
  | error f =>
    -- The failure of the write is the failure of the step, which becomes a warning.
    obtain ⟨rfl, rfl, -⟩ := runs_done_iff.mp last
    exact ⟨.error f, _, rfl, rfl, rfl⟩
  | ok v =>
    obtain ⟨rfl, rfl, -⟩ := runs_done_iff.mp last
    exact ⟨.ok v, _, rfl, rfl, (List.append_nil _).symm⟩

/-- For an order without the ledger mark, all lines and then the mark are posted. The run goes on
with the warnings that they leave. -/
theorem postings_of_adjustInventory {a : StepResult}
    (unmarked : r.order.stockAdjusted.truthy = false)
    (h : Runs env (adjustInventory r) s ms a v) :
    ∃ (ps : List Posting) (r' : Run), ps.map Posting.line? = r.order.lines.map some ++ [none] ∧
      events ms = ps.flatMap Posting.events ∧ Pipeline.settle adjusting a = (r', none) ∧
      r'.warnings = r.warnings ++ ps.filterMap Posting.warning := by
  simp only [adjustInventory, unmarked, Bool.false_eq_true, if_false] at h
  obtain ⟨ms₁, ws, u, ms₂, first, second, rfl⟩ := runs_bind_iff.mp h
  obtain ⟨ps, lines, calls, rfl⟩ := postings_of_adjustLines first
  obtain ⟨reply, r', call, settled, warned⟩ := posting_of_writeLedger second
  refine ⟨ps ++ [.mark r.order.id reply], r', ?_, ?_, settled, ?_⟩
  · simp [lines, Posting.line?]
  · simp [calls, call]
  · rw [warned, List.filterMap_append, List.append_assoc]
    cases told : (Posting.mark r.order.id reply).warning <;> simp [told]

/-! ### The steps around it -/

/-- Up to the receipt the order stays as it was loaded, and no warnings are added. -/
theorem kept_opening {a : StepResult}
    (h : Runs env (Pipeline.run ((steps now).take 3) r) s ms a v) :
    a.1.order = r.order ∧ a.1.warnings = r.warnings := by
  refine Prod.mk.inj (Pipeline.runs_keeps (fun r => (r.order, r.warnings)) ?_ h)
  intro step mem r s ms a v run
  simp only [steps, List.take_succ_cons, List.take_zero, List.mem_cons, List.not_mem_nil,
    or_false] at mem
  have kept : step.kind = .required ∧ a.1.order = r.order ∧ a.1.warnings = r.warnings := by
    rcases mem with rfl | rfl | rfl
    · obtain ⟨-, -, -, same, -⟩ := runs_markValidated run
      rw [same]
      exact ⟨rfl, rfl, rfl⟩
    · obtain ⟨-, -, -, same, -⟩ := runs_writeStatus run
      rw [same]
      exact ⟨rfl, rfl, rfl⟩
    · obtain ⟨-, -, -, ⟨-, -, rfl⟩ | ⟨-, -, rfl⟩⟩ := runs_printReceipt run <;>
        exact ⟨rfl, rfl, rfl⟩
  rw [Pipeline.order_settle, Pipeline.warnings_settle (.inl kept.1), kept.2.1, kept.2.2]

/-- Once the stock is adjusted, no warnings are added. -/
theorem warnings_ending {a : StepResult}
    (h : Runs env (Pipeline.run ((steps now).drop 5) r) s ms a v) :
    a.1.warnings = r.warnings := by
  refine Pipeline.runs_keeps Run.warnings ?_ h
  intro step mem r s ms a v run
  simp only [steps, List.drop_succ_cons, List.drop_zero, List.mem_cons, List.not_mem_nil,
    or_false] at mem
  rcases mem with rfl | rfl
  · obtain ⟨-, -, -, same, -⟩ := runs_writeStatus run
    rw [Pipeline.warnings_settle (.inl rfl), same]
  · obtain ⟨-, -, -, rfl⟩ := runs_notifyCompleted run
    rfl

/-! ### Processing an order -/

/-- After the receipt, the order is confirmed and its postings follow. -/
theorem accounting_afterReceipt {a : StepResult} (loaded : r.order = o)
    (unmarked : o.stockAdjusted.truthy = false)
    (h : Runs env (Pipeline.run ((steps now).drop 3) r) s ms a v) :
    ∃ ps, Accounting o r.warnings (events ms) a.1.warnings ps := by
  subst loaded
  rw [run_afterReceipt] at h
  obtain ⟨reply, u, ns, -, rest, rfl⟩ := runs_call_iff.mp h
  have rest : Runs env (Pipeline.run (adjusting :: (steps now).drop 5) (confirmed r reply)) u ns a
      v := rest
  rw [Pipeline.run_cons] at rest
  obtain ⟨ms₁, b, t, ms₂, adjusted, ending, rfl⟩ := runs_bind_iff.mp rest
  rw [← order_confirmed r reply] at unmarked
  obtain ⟨ps, r', lines, calls, settled, warned⟩ := postings_of_adjustInventory unmarked adjusted
  rw [order_confirmed] at lines
  rw [settled] at ending
  refine ⟨ps, lines, [], r.receipt, reply, events ms₂, by simp [calls], ?_⟩
  rw [warnings_ending ending, warned, warnings_confirmed]

/-- Where the steps have come to a notice, the postings for the order are made. -/
theorem accounting_steps {a : StepResult} (loaded : r.order = o)
    (unmarked : o.stockAdjusted.truthy = false)
    (h : Runs env (Pipeline.run (steps now) r) s ms a v)
    (noticed : ∃ e ∈ events ms, e.1.IsNotice) :
    ∃ ps, Accounting o r.warnings (events ms) a.1.warnings ps := by
  rw [← List.take_append_drop 3 (steps now), Pipeline.run_append] at h
  obtain ⟨ms₁, ⟨r', f⟩, u, ms₂, opening, rest, rfl⟩ := runs_bind_iff.mp h
  have silent := opening.asked (asks_opening now r)
  cases f with
  | some f =>
    obtain ⟨rfl, -, -⟩ := runs_done_iff.mp rest
    obtain ⟨e, mem, notice⟩ := noticed
    rw [List.append_nil] at mem
    exact absurd notice (silent e mem).not_isNotice
  | none =>
    obtain ⟨same, kept⟩ := kept_opening opening
    obtain ⟨ps, accounting⟩ := accounting_afterReceipt (same.trans loaded) unmarked rest
    rw [events_append, ← kept]
    exact ⟨ps, accounting.prepend _⟩

theorem accounting_complete {id : Value} {report : Report}
    (unmarked : o.stockAdjusted.truthy = false)
    (h : Runs env (complete now o id noted) s ms report v)
    (noticed : ∃ e ∈ events ms, e.1.IsNotice) :
    ∃ ps, Accounting o noted (events ms) (report.warnings.getD []) ps := by
  obtain ⟨ms₁, ⟨r, f⟩, u, ms₂, taken, last, rfl⟩ := runs_bind_iff.mp h
  cases f with
  | none =>
    obtain ⟨rfl, rfl, -⟩ := runs_done_iff.mp last
    rw [List.append_nil] at noticed ⊢
    exact accounting_steps rfl unmarked taken noticed
  | some f =>
    obtain ⟨_, undone, rfl⟩ := runs_map_iff.mp last
    obtain ⟨reply, w, ns, -, rest, rfl⟩ := runs_call_iff.mp undone
    obtain ⟨rfl, -, -⟩ := runs_done_iff.mp rest
    rw [events_append] at noticed ⊢
    -- The order is made pending again by a write, which is no notice.
    rcases noticed_append_iff.mp noticed with noticed | ⟨e, mem, notice⟩
    case inr =>
      cases List.mem_singleton.mp mem
      cases notice
    obtain ⟨ps, accounting⟩ := accounting_steps rfl unmarked taken noticed
    rw [getD_someWarnings]
    exact ⟨ps, accounting.append _⟩

theorem accounting_processLoaded {id : Value} {report : Report}
    (unmarked : o.stockAdjusted.truthy = false)
    (h : Runs env (processLoaded now settings o id) s ms report v)
    (noticed : ∃ e ∈ events ms, e.1.IsNotice) :
    ∃ review ps, Reviewed env settings id (events ms) review ∧
      Accounting o review.warnings (events ms) (report.warnings.getD []) ps := by
  -- An order that is not attempted is at most reviewed, and a review only reads.
  have unnoticed (done : ms = []) : False := by simp [done] at noticed
  unfold processLoaded at h
  split at h
  · exact (unnoticed (runs_done_iff.mp h).1).elim
  split at h
  · exact (unnoticed (runs_done_iff.mp h).1).elim
  obtain ⟨ms₁, review, u, ms₂, reviewed, rest, rfl⟩ := runs_bind_iff.mp h
  have silent := reviewed.asked (asks_review settings id)
  rw [events_append] at noticed ⊢
  rcases noticed_append_iff.mp noticed with ⟨e, mem, notice⟩ | noticed
  · exact absurd notice (silent e mem).isWork.not_isNotice
  split at rest
  · obtain ⟨ps, accounting⟩ := accounting_complete unmarked rest noticed
    exact ⟨review, ps, ⟨s, ms₁, u, reviewed, List.prefix_append _ _⟩, accounting.prepend _⟩
  · obtain ⟨rfl, -, -⟩ := runs_done_iff.mp rest
    simp at noticed

/-- Take an order without the ledger mark whose processing comes to the confirmation, which is the
step right before the adjusting of the stock. Whatever the desk replies, there is a report; the
lines of the order and the ledger mark are posted; and the warnings of the report are those of the
review, of the confirmation and of the postings. Each posting that the store does not say it made
has a warning of its own if and only if the store has declined none. -/
theorem process_accounts {id : String} {a : Except Failure Report}
    (h : Runs env (process now settings (.text id)) s ms a v)
    (loaded : (events ms).head? = some (looked (.text id) (.ok (.entry o))))
    (unmarked : o.stockAdjusted.truthy = false)
    (reached : ∃ e ∈ events ms, e.1.IsConfirmation) :
    ∃ report review ps, a = .ok report ∧
      Reviewed env settings (.text id) (events ms).tail review ∧
      Accounting o review.warnings (events ms) (report.warnings.getD []) ps ∧
      ((∀ p ∈ ps, ¬ p.IsMade → p.warning.isSome) ↔ ∀ p ∈ ps, ¬ p.IsDeclined) := by
  obtain ⟨reply, u, ns, -, rest, rfl⟩ := runs_call_iff.mp h
  cases loaded
  obtain ⟨report, work, rfl⟩ := runs_map_iff.mp rest
  have noticed : ∃ e ∈ events ns, e.1.IsNotice := by
    obtain ⟨e, mem, confirmation⟩ := reached
    rw [events_cons, List.mem_cons] at mem
    rcases mem with rfl | mem
    · cases confirmation
    · exact ⟨e, mem, confirmation.isNotice⟩
  obtain ⟨review, ps, reviewed, accounting⟩ := accounting_processLoaded unmarked work noticed
  exact ⟨report, review, ps, rfl, reviewed, accounting.prepend [_],
    Posting.forall_isSome_warning_iff⟩

end Processing

/-- The desk at which the writes that adjust the stock are answered in one way, and not carried
out. -/
def MemoryStore.stalledDesk (reply : Except Failure Value) (now : Timestamp) :
    Responder DeskCall DeskCall.Reply MemoryStore
  | .store (.setStock ..), s => (reply, s)
  | .store (.write _ .processing [.stockAdjusted _]), s => (reply, s)
  | c, s => desk now c s

/-- Whether a write that adjusts the stock is taken, where an event is such a write. -/
def adjustmentTaken? : DeskEvent → Option Bool
  | ⟨.store (.setStock ..), reply⟩ => some (taken reply)
  | ⟨.store (.write _ .processing [.stockAdjusted _]), reply⟩ => some (taken reply)
  | _ => none

namespace Processing

/-- What such a desk makes of the order of a small store, and what the order is. -/
theorem exists_runs_stalled (reply : Except Failure Value) (report : Report)
    (reported : ((process default {} "order-1").run (MemoryStore.stalledDesk reply default)
      (MemoryStore.sample 10 2)).1.toOption = some report) :
    ∃ o ms v,
      Runs (.of (MemoryStore.stalledDesk reply default)) (process default {} "order-1")
        (MemoryStore.sample 10 2) ms (.ok report) v ∧
      events ms = (process default {} "order-1").trace (MemoryStore.stalledDesk reply default)
        (MemoryStore.sample 10 2) ∧
      (events ms).head? = some (looked "order-1" (.ok (.entry o))) ∧
      o.stockAdjusted.truthy = false := by
  obtain ⟨ms, run⟩ := exists_runs_report (fun _ _ _ => id) reported
  have trace := run.eq_run.2.symm
  refine ⟨?o, ms, _, run, trace, ?loaded, ?unmarked⟩
  case loaded =>
    rw [trace]
    rfl
  case unmarked => rfl

/-- Where the store cannot be reached for the writes that adjust the stock, the line and the ledger
mark have a warning each. -/
theorem process_accounts_sample :
    let lost : Except Failure Value := .error (.raised .connection "unreachable")
    let warnings := ["Stock for Desk Lamp was not updated", "adjust_inventory: unreachable"]
    let env : DeskEnvironment MemoryStore := .of (MemoryStore.stalledDesk lost default)
    ∃ o ms report review v ps,
      Runs env (process default {} "order-1") (MemoryStore.sample 10 2) ms (.ok report) v ∧
      (events ms).head? = some (looked "order-1" (.ok (.entry o))) ∧
      o.stockAdjusted.truthy = false ∧ (∃ e ∈ events ms, e.1.IsConfirmation) ∧
      (events ms).filterMap adjustmentTaken? = [false, false] ∧
      report.warnings = some warnings ∧
      Reviewed env {} "order-1" (events ms).tail review ∧
      Accounting o review.warnings (events ms) warnings ps ∧
      ((∀ p ∈ ps, ¬ p.IsMade → p.warning.isSome) ↔ ∀ p ∈ ps, ¬ p.IsDeclined) := by
  intro lost warnings env
  obtain ⟨o, ms, v, run, trace, loaded, unmarked⟩ := exists_runs_stalled lost
    { success := true
      orderId := "order-1"
      message := "Order processed successfully"
      warnings := some warnings } (by decide +kernel)
  have reached : ∃ e ∈ events ms, e.1.IsConfirmation := by
    rw [trace]
    decide +kernel
  have replies : (events ms).filterMap adjustmentTaken? = [false, false] := by
    rw [trace]
    decide +kernel
  obtain ⟨report, review, ps, same, reviewed, accounting, told⟩ :=
    process_accounts run loaded unmarked reached
  cases same
  exact ⟨o, ms, _, review, v, ps, run, loaded, unmarked, reached, replies, rfl, reviewed,
    accounting, told⟩

/-- Where the store declines the writes that adjust the stock, nothing tells of it: the order is
processed with success and without a warning. -/
theorem declined_without_warning :
    let declined : Except Failure Value := .ok (.bool false)
    ∃ o ms report v,
      Runs (.of (MemoryStore.stalledDesk declined default)) (process default {} "order-1")
        (MemoryStore.sample 10 2) ms (.ok report) v ∧
      (events ms).head? = some (looked "order-1" (.ok (.entry o))) ∧
      o.stockAdjusted.truthy = false ∧ (∃ e ∈ events ms, e.1.IsConfirmation) ∧
      (events ms).filterMap adjustmentTaken? = [false, false] ∧
      report.success = true ∧ report.warnings = some [] := by
  intro declined
  obtain ⟨o, ms, v, run, trace, loaded, unmarked⟩ := exists_runs_stalled declined
    { success := true
      orderId := "order-1"
      message := "Order processed successfully"
      warnings := some [] } (by decide +kernel)
  have reached : ∃ e ∈ events ms, e.1.IsConfirmation := by
    rw [trace]
    decide +kernel
  have replies : (events ms).filterMap adjustmentTaken? = [false, false] := by
    rw [trace]
    decide +kernel
  exact ⟨o, ms, _, v, run, loaded, unmarked, reached, replies, rfl, rfl⟩

end Processing

end Fulfilment
