import Fulfilment.Proofs.Attempt

/-!
# Which calls are made

The calls of the desk are of three kinds: its work, which is with the store and the printer; the
notices to customers; and the pauses of a batch. Reviewing an order and marking it is work only, a
notice is sent where a receipt is printed and where an order is completed or called off, and nothing
but a batch pauses.

Processing an order makes few calls of each kind. In particular, all that it writes to an order is a
status and the marks that belong to the processing.

## Main definitions

* `DeskCall.IsWork`, `DeskCall.IsNotice`, `DeskCall.IsPause` - the kinds
* `DeskCall.IsOfProcessing` - the calls that belong to the processing of an order

## Main results

* `Pipeline.asks_run` - a pipeline makes the calls of its steps
* `Processing.asks_opening` - no notice is sent before a receipt is printed
* `Processing.asks_processing` - the calls that processing an order makes
* `Processing.asks_process` - processing an order does not pause
-/

namespace Fulfilment

open Program

/-- Whether a call is on the store or the printer. -/
def DeskCall.IsWork : DeskCall → Prop
  | .store _ | .print _ => True
  | _ => False

/-- Whether a call tells a customer something. -/
def DeskCall.IsNotice : DeskCall → Prop
  | .confirm .. | .tell .. => True
  | _ => False

/-- Whether a call passes the time between two orders. -/
def DeskCall.IsPause : DeskCall → Prop
  | .pause _ => True
  | _ => False

/-- Whether a change is a mark that belongs to the processing of an order. -/
def Change.isOfProcessing : Change → Bool
  | validatedAt _ | stockAdjusted _ => true
  | _ => false

/-- Whether a call belongs to the processing of an order. -/
def DeskCall.IsOfProcessing : DeskCall → Prop
  | .store (.find _) | .store (.product _) | .store (.setStock ..) => True
  | .store (.write _ _ changes) => ∀ c ∈ changes, c.isOfProcessing = true
  | .print _ | .confirm .. => True
  | .tell _ status => status = .completed
  | _ => False

instance : DecidablePred DeskCall.IsNotice
  | .confirm .. | .tell .. => .isTrue trivial
  | .store _ | .print _ | .pause _ => .isFalse id

variable {c : DeskCall}

theorem DeskCall.IsRead.isWork (h : c.IsRead) : c.IsWork := by
  cases c <;> trivial

theorem DeskCall.IsStock.isWork (h : c.IsStock) : c.IsWork := by
  cases c <;> trivial

theorem DeskCall.IsWork.not_isNotice (h : c.IsWork) : ¬ c.IsNotice := by
  intro notice
  cases c <;> first | exact h | exact notice

theorem DeskCall.IsRead.isOfProcessing (h : c.IsRead) : c.IsOfProcessing := by
  obtain (_ | _) | _ := c <;> trivial

theorem DeskCall.IsStock.isOfProcessing (h : c.IsStock) : c.IsOfProcessing := by
  obtain (_ | _) | _ := c <;> trivial

theorem DeskCall.IsOfProcessing.not_isPause (h : c.IsOfProcessing) : ¬ c.IsPause := by
  intro pause
  cases c <;> first | exact h | exact pause

/-- A pipeline makes the calls of its steps. -/
theorem Pipeline.asks_run {Call : Type} {Reply : Call → Type} {kind : Call → Prop}
    {ss : List (Step Call Reply)} (each : ∀ s ∈ ss, ∀ r, (s.action r).Asks kind) (r : Run) :
    (Pipeline.run ss r).Asks kind := by
  induction ss generalizing r with
  | nil => trivial
  | cons s ss ih =>
    refine asks_bind (each s List.mem_cons_self r) fun result => ?_
    rcases Pipeline.settle s result with ⟨r', _ | f⟩
    · exact ih (fun s' mem => each s' (List.mem_cons_of_mem s mem)) r'
    · trivial

namespace Processing

variable {now : Timestamp} {settings : OrderSettings} {id : Value} {r : Run}
  {kind : DeskCall → Prop}

/-! ### The calls of each step -/

theorem asks_markValidated
    (writes : kind (.store (.write r.order.id .validated [.validatedAt (.timestamp now)]))) :
    (markValidated now r).Asks kind := by
  refine ⟨writes, fun reply => ?_⟩
  rcases reply with f | w
  · trivial
  · dsimp only [StoreProgram.atDesk, Program.bind]
    split <;> trivial

theorem asks_writeStatus {status : Status}
    (writes : kind (.store (.write r.order.id status []))) : (writeStatus status r).Asks kind := by
  refine ⟨writes, fun reply => ?_⟩
  rcases reply with f | w
  · trivial
  · dsimp only
    split <;> trivial

theorem asks_printReceipt (prints : kind (.print r.order.id)) : (printReceipt r).Asks kind :=
  ⟨prints, fun reply => by cases reply <;> trivial⟩

theorem asks_sendConfirmation (confirms : kind (.confirm r.order.id r.receipt)) :
    (sendConfirmation r).Asks kind :=
  ⟨confirms, fun reply => by rcases reply with f | (_ | _) <;> trivial⟩

theorem asks_adjustInventory (stock : ∀ c, c.IsStock → kind c)
    (writes : kind (.store (.write r.order.id .processing [.stockAdjusted (.bool true)]))) :
    (adjustInventory r).Asks kind := by
  unfold adjustInventory
  split
  · trivial
  · refine asks_bind ((asks_adjustLines r.order.lines).mono stock) ?_
    exact fun warnings => ⟨writes, fun reply => by cases reply <;> trivial⟩

theorem asks_notifyCompleted (tells : kind (.tell r.order.id .completed)) :
    (notifyCompleted r).Asks kind := ⟨tells, fun _ => trivial⟩

/-! ### The calls of the processing -/

/-- No notice is sent before the receipt is printed. -/
theorem asks_opening (now : Timestamp) (r : Run) :
    (Pipeline.run ((steps now).take 3) r).Asks DeskCall.IsWork := by
  refine Pipeline.asks_run (fun s mem r => ?_) r
  simp only [steps, List.take_succ_cons, List.take_zero, List.mem_cons, List.not_mem_nil,
    or_false] at mem
  rcases mem with rfl | rfl | rfl
  · exact asks_markValidated trivial
  · exact asks_writeStatus trivial
  · exact asks_printReceipt trivial

theorem asks_steps (now : Timestamp) (r : Run) :
    (Pipeline.run (steps now) r).Asks DeskCall.IsOfProcessing := by
  have unmarked {id : Value} {status : Status} :
      DeskCall.IsOfProcessing (.store (.write id status [])) := List.forall_mem_nil _
  refine Pipeline.asks_run (fun s mem r => ?_) r
  simp only [steps, List.mem_cons, List.not_mem_nil, or_false] at mem
  rcases mem with rfl | rfl | rfl | rfl | rfl | rfl | rfl
  · exact asks_markValidated (List.forall_mem_singleton.mpr rfl)
  · exact asks_writeStatus unmarked
  · exact asks_printReceipt trivial
  · exact asks_sendConfirmation trivial
  · exact asks_adjustInventory (fun _ => DeskCall.IsStock.isOfProcessing)
      (List.forall_mem_singleton.mpr rfl)
  · exact asks_writeStatus unmarked
  · exact asks_notifyCompleted rfl

/-- Processing an order makes no other calls than those that belong to it. -/
theorem asks_processing (now : Timestamp) (settings : OrderSettings) (id : Value) :
    (process now settings id).Asks DeskCall.IsOfProcessing := by
  refine ⟨trivial, fun reply => ?_⟩
  rcases reply with f | (_ | o | w)
  case ok.entry =>
    refine asks_map ?_
    unfold processLoaded
    split
    · trivial
    split
    · trivial
    have reviewed := (asks_review settings id).mono fun _ => DeskCall.IsRead.isOfProcessing
    refine asks_bind reviewed fun review => ?_
    split
    · refine asks_bind (asks_steps now _) fun result => ?_
      rcases result with ⟨r, _ | f⟩
      · trivial
      · exact ⟨List.forall_mem_nil _, fun _ => trivial⟩
    · trivial
  all_goals trivial

/-- Processing an order does not pause. -/
theorem asks_process (now : Timestamp) (settings : OrderSettings) (id : Value) :
    (process now settings id).Asks (¬ DeskCall.IsPause ·) :=
  (asks_processing now settings id).mono fun _ => DeskCall.IsOfProcessing.not_isPause

theorem asks_cancel {reason : Value}
    (writes : kind (.store (.write id .cancelled
      [.cancelledAt (.timestamp now), .cancellationReason (reasonOr settings reason)])))
    (tells : kind (.tell id .cancelled)) : (cancel now settings id reason).Asks kind := by
  refine ⟨writes, fun reply => ?_⟩
  rcases reply with f | w
  · trivial
  · dsimp only
    split
    · exact asks_map ⟨tells, fun _ => trivial⟩
    · trivial

end Processing

end Fulfilment
