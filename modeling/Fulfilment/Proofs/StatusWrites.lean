import Fulfilment.Proofs.MemoryDesk

/-!
# The status writes of processing

Whatever the collaborators reply, processing an order results in a report, and the statuses that it
writes on the way follow one of four courses. Which course it is depends on three things only:
whether the order is fit, whether the two marks at the beginning are taken, and whether a receipt is
printed. The last write of a course undoes the others where the order could not be completed.

## Main definitions

* `StatusWrite`, `statusWrites` - the status writes among some events
* `printed`, `confirmations` - the receipts and the confirmations among some events
* `Processing.Fit` - the orders that a responder lets processing take on
* `Processing.WriteCourse` - the courses that the status writes of an attempt may take

## Main results

* `Processing.statusWrites_process` - the courses of the status writes
-/

namespace Fulfilment

/-- A status write, and whether it was taken. -/
structure StatusWrite where
  /-- The order. -/
  id : Value
  /-- The status that was written. -/
  status : Status
  /-- The members that were written with it. -/
  changes : List Change
  /-- Whether the store took the write. -/
  taken : Bool

/-- The status write that an event is. -/
def statusWrite? : DeskEvent → Option StatusWrite
  | ⟨.store (.write id status changes), reply⟩ => some ⟨id, status, changes, taken reply⟩
  | _ => none

/-- The status writes among some events, in order. -/
def statusWrites (es : List DeskEvent) : List StatusWrite := es.filterMap statusWrite?

/-- The receipt that an event prints, or nothing where the printing fails. -/
def printed? : DeskEvent → Option (Option String)
  | ⟨.print _, reply⟩ => some reply.toOption
  | _ => none

/-- The receipts that some events print, in order. -/
def printed (es : List DeskEvent) : List (Option String) := es.filterMap printed?

/-- The confirmation that an event attempts. -/
def confirmation? : DeskEvent → Option (Value × Option String)
  | ⟨.confirm id receipt, _⟩ => some (id, receipt)
  | _ => none

/-- The confirmations that some events attempt, each with its order and the receipt, in order. -/
def confirmations (es : List DeskEvent) : List (Value × Option String) :=
  es.filterMap confirmation?

namespace Processing

open Program

variable {σ : Type} {env : DeskEnvironment σ} {now : Timestamp} {settings : OrderSettings}
  {o : Order} {id : Value} {s t u v : σ} {ms : List (DeskMoment σ)}

/-- The mark that an order is fit to process. -/
def validatedWrite (now : Timestamp) (o : Order) (taken : Bool) : StatusWrite :=
  ⟨o.id, .validated, [.validatedAt (.timestamp now)], taken⟩

/-- The mark that an order is being processed. -/
def processingWrite (o : Order) (taken : Bool) : StatusWrite := ⟨o.id, .processing, [], taken⟩

/-- The ledger mark. -/
def ledgerWrite (o : Order) (taken : Bool) : StatusWrite :=
  ⟨o.id, .processing, [.stockAdjusted (.bool true)], taken⟩

/-- The mark that an order is completed. -/
def completedWrite (o : Order) (taken : Bool) : StatusWrite := ⟨o.id, .completed, [], taken⟩

/-- The mark that an order is pending again. -/
def pendingWrite (id : Value) (taken : Bool) : StatusWrite := ⟨id, .pending, [], taken⟩

/-- Whether a responder, asked in a state, hands out the order for an identifier, and the order is
open and found fit in the state that follows. -/
def Fit (respond : Responder DeskCall DeskCall.Reply σ) (settings : OrderSettings) (id : Value)
    (s : σ) (o : Order) : Prop :=
  (respond (.store (.find id)) s).1 = .ok (.entry o) ∧ o.status.IsOpen ∧
    ((Validation.review settings id).atDesk.run respond
      (respond (.store (.find id)) s).2).1.isValid = true

/-- The ledger mark, which is written for an order that does not bear it. -/
def ledgerWrites (o : Order) (taken : Bool) : List StatusWrite :=
  if o.stockAdjusted.truthy then [] else [ledgerWrite o taken]

/-- The courses of an attempt at an order: its status writes, the receipts that are printed, the
confirmations that are attempted, and whether it succeeds. -/
inductive WriteCourse (now : Timestamp) (o : Order) (id : Value) :
    List StatusWrite → List (Option String) → List (Value × Option String) → Bool → Prop where
  /-- The first mark is not taken. -/
  | unvalidated (undone : Bool) :
      WriteCourse now o id [validatedWrite now o false, pendingWrite id undone] [] [] false
  /-- The second mark is not taken. -/
  | unmarked (undone : Bool) :
      WriteCourse now o id
        [validatedWrite now o true, processingWrite o false, pendingWrite id undone] [] [] false
  /-- No receipt is printed. -/
  | unprinted (undone : Bool) :
      WriteCourse now o id
        [validatedWrite now o true, processingWrite o true, pendingWrite id undone] [none] [] false
  /-- The order is not marked as completed. -/
  | uncompleted (receipt : String) (ledger undone : Bool) :
      WriteCourse now o id
        ([validatedWrite now o true, processingWrite o true] ++ ledgerWrites o ledger ++
          [completedWrite o false, pendingWrite id undone])
        [some receipt] [(o.id, some receipt)] false
  /-- The order is completed. -/
  | completed (receipt : String) (ledger : Bool) :
      WriteCourse now o id
        ([validatedWrite now o true, processingWrite o true] ++ ledgerWrites o ledger ++
          [completedWrite o true])
        [some receipt] [(o.id, some receipt)] true

/-! ### What is seen of some events -/

@[simp] theorem statusWrites_nil : statusWrites [] = [] := rfl

@[simp] theorem statusWrites_cons (e : DeskEvent) (es : List DeskEvent) :
    statusWrites (e :: es) = (statusWrite? e).toList ++ statusWrites es := by
  cases h : statusWrite? e <;> simp [statusWrites, h]

@[simp] theorem statusWrites_append (es fs : List DeskEvent) :
    statusWrites (es ++ fs) = statusWrites es ++ statusWrites fs := List.filterMap_append

@[simp] theorem printed_nil : printed [] = [] := rfl

@[simp] theorem printed_cons (e : DeskEvent) (es : List DeskEvent) :
    printed (e :: es) = (printed? e).toList ++ printed es := by
  cases h : printed? e <;> simp [printed, h]

@[simp] theorem printed_append (es fs : List DeskEvent) :
    printed (es ++ fs) = printed es ++ printed fs := List.filterMap_append

@[simp] theorem confirmations_nil : confirmations [] = [] := rfl

@[simp] theorem confirmations_cons (e : DeskEvent) (es : List DeskEvent) :
    confirmations (e :: es) = (confirmation? e).toList ++ confirmations es := by
  cases h : confirmation? e <;> simp [confirmations, h]

@[simp] theorem confirmations_append (es fs : List DeskEvent) :
    confirmations (es ++ fs) = confirmations es ++ confirmations fs := List.filterMap_append

/-- Whether an event is neither a status write, nor a receipt, nor a confirmation. -/
def IsSilent (e : DeskEvent) : Prop :=
  statusWrite? e = none ∧ printed? e = none ∧ confirmation? e = none

theorem isSilent_of_isRead {e : DeskEvent} (h : e.1.IsRead) : IsSilent e := by
  obtain ⟨(_ | _) | _, reply⟩ := e <;> first | exact ⟨rfl, rfl, rfl⟩ | cases h

theorem isSilent_of_isStock {e : DeskEvent} (h : e.1.IsStock) : IsSilent e := by
  obtain ⟨(_ | _) | _, reply⟩ := e <;> first | exact ⟨rfl, rfl, rfl⟩ | cases h

theorem statusWrites_silent {es : List DeskEvent} (h : ∀ e ∈ es, IsSilent e) :
    statusWrites es = [] :=
  List.filterMap_eq_nil_iff.mpr fun e mem => (h e mem).1

theorem printed_silent {es : List DeskEvent} (h : ∀ e ∈ es, IsSilent e) : printed es = [] :=
  List.filterMap_eq_nil_iff.mpr fun e mem => (h e mem).2.1

theorem confirmations_silent {es : List DeskEvent} (h : ∀ e ∈ es, IsSilent e) :
    confirmations es = [] :=
  List.filterMap_eq_nil_iff.mpr fun e mem => (h e mem).2.2

/-! ### The writes of an attempt -/

/-- Of the adjusting of the stock, the ledger mark is all that is a status write. -/
theorem writes_adjustment (h : Adjustment env o s ms v) :
    ∃ ledger, statusWrites (events ms) = ledgerWrites o ledger ∧ printed (events ms) = [] ∧
      confirmations (events ms) = [] := by
  cases h with
  | skipped marked => exact ⟨true, by simp [ledgerWrites, marked], rfl, rfl⟩
  | made reply unmarked lines mark =>
    have silent := fun e mem => isSilent_of_isStock (lines.asked (asks_adjustLines _) e mem)
    refine ⟨taken reply, ?_, ?_, ?_⟩
    · simp [statusWrites_silent silent, statusWrite?, ledgerWrites, unmarked, ledgerWrite]
    · simp [printed_silent silent, printed?]
    · simp [confirmations_silent silent, confirmation?]

/-- At the end there may be the ledger mark, and then the order is marked as completed. -/
theorem writes_closing {success : Bool} (h : Closing env o s ms success v) :
    ∃ ledger, statusWrites (events ms) = ledgerWrites o ledger ++ [completedWrite o success] ∧
      printed (events ms) = [] ∧ confirmations (events ms) = [] := by
  cases h with
  | uncompleted adjusted completed refused =>
    obtain ⟨ledger, writes, prints, confirms⟩ := writes_adjustment adjusted
    refine ⟨ledger, ?_, ?_, ?_⟩
    · simp [writes, statusWrite?, refused, completedWrite]
    · simp [prints, printed?]
    · simp [confirms, confirmation?]
  | completed adjusted completed accepted told =>
    obtain ⟨ledger, writes, prints, confirms⟩ := writes_adjustment adjusted
    refine ⟨ledger, ?_, ?_, ?_⟩
    · simp [writes, statusWrite?, accepted, completedWrite]
    · simp [prints, printed?]
    · simp [confirms, confirmation?]

/-- The events of an attempt show one of the courses. -/
theorem writes_attempt {success : Bool} (h : Attempt env now o id s ms success v) :
    WriteCourse now o id (statusWrites (events ms)) (printed (events ms))
      (confirmations (events ms)) success := by
  cases h with
  | passed passage =>
    cases passage with
    | printed receipt _ accepted _ accepted' _ _ closing =>
      obtain ⟨ledger, writes, prints, confirms⟩ := writes_closing closing
      have course : WriteCourse now o id _ _ _ true := .completed receipt ledger
      simpa [statusWrite?, printed?, confirmation?, writes, prints, confirms, accepted, accepted',
        validatedWrite, processingWrite, Except.toOption] using course
  | undone reply passage _ =>
    cases passage with
    | unvalidated _ refused =>
      have course : WriteCourse now o id _ _ _ false := .unvalidated (taken reply)
      simpa [statusWrite?, printed?, confirmation?, refused, validatedWrite, pendingWrite]
        using course
    | unmarked _ accepted _ refused =>
      have course : WriteCourse now o id _ _ _ false := .unmarked (taken reply)
      simpa [statusWrite?, printed?, confirmation?, accepted, refused, validatedWrite,
        processingWrite, pendingWrite] using course
    | unprinted _ accepted _ accepted' _ =>
      have course : WriteCourse now o id _ _ _ false := .unprinted (taken reply)
      simpa [statusWrite?, printed?, confirmation?, accepted, accepted', validatedWrite,
        processingWrite, pendingWrite, Except.toOption] using course
    | printed receipt _ accepted _ accepted' _ _ closing =>
      obtain ⟨ledger, writes, prints, confirms⟩ := writes_closing closing
      have course : WriteCourse now o id _ _ _ false := .uncompleted receipt ledger (taken reply)
      simpa [statusWrite?, printed?, confirmation?, writes, prints, confirms, accepted, accepted',
        validatedWrite, processingWrite, pendingWrite, Except.toOption] using course

/-- Reading shows nothing. -/
theorem writes_read {es : List DeskEvent} (h : ∀ e ∈ es, e.1.IsRead) :
    statusWrites es = [] ∧ printed es = [] ∧ confirmations es = [] := by
  have silent := fun e mem => isSilent_of_isRead (h e mem)
  exact ⟨statusWrites_silent silent, printed_silent silent, confirmations_silent silent⟩

/-! ### The whole course -/

section Respond

variable {respond : Responder DeskCall DeskCall.Reply σ} {r : Except Failure (Found Order)}

/-- An order that is fit is the one that is loaded. -/
theorem Fit.loaded (h : Fit respond settings id s o)
    (loaded : Environment.of respond s (looked id r) t) :
    r = .ok (.entry o) ∧ o.status.IsOpen ∧
      ((Validation.review settings id).atDesk.run respond t).1.isValid = true := by
  have replied : respond (.store (.find id)) s = (r, t) := loaded
  obtain ⟨found, isOpen, fit⟩ := h
  rw [replied] at found fit
  exact ⟨found, isOpen, fit⟩

/-- An order that is loaded and open is fit if its review says so. -/
theorem fit_of_loaded {review : Review}
    (loaded : Environment.of respond s (looked id (.ok (.entry o))) t) (isOpen : o.status.IsOpen)
    (reviewed : Runs (.of respond) (Validation.review settings id).atDesk t ms review u)
    (fit : review.isValid = true) : Fit respond settings id s o := by
  have replied : respond (.store (.find id)) s = (.ok (.entry o), t) := loaded
  refine ⟨by rw [replied], isOpen, ?_⟩
  rw [replied, reviewed.eq_run.1]
  exact fit

end Respond

/-- Where a store answers with orders only, the processing of an order results in a report,
whatever else the desk replies. The statuses that are written, the receipts that are printed and the
confirmations that are attempted are those of one of the courses if there is an order that is fit,
and there are none otherwise. -/
theorem statusWrites_process (respond : Responder DeskCall DeskCall.Reply σ)
    (answers : ∀ id s w, (respond (.store (.find (.text id))) s).1 ≠ .ok (.other w))
    (now : Timestamp) (settings : OrderSettings) (id : String) (s : σ) :
    let es := (process now settings (.text id)).trace respond s
    ∃ report, ((process now settings (.text id)).run respond s).1 = .ok report ∧
      (((¬ ∃ o, Fit respond settings (.text id) s o) ∧ statusWrites es = [] ∧ printed es = [] ∧
          confirmations es = []) ∨
        ∃ o, Fit respond settings (.text id) s o ∧
          WriteCourse now o (.text id) (statusWrites es) (printed es) (confirmations es)
            report.success) := by
  obtain ⟨ms, h, same⟩ := runs_run respond (process now settings (.text id)) s
  generalize ((process now settings (.text id)).run respond s).1 = a at h ⊢
  rw [← same]
  cases course_of_runs h with
  | unread loaded =>
    refine ⟨_, rfl, .inl ⟨?_, rfl, rfl, rfl⟩⟩
    rintro ⟨o, fit⟩
    cases (fit.loaded loaded).1
  | missing loaded =>
    refine ⟨_, rfl, .inl ⟨?_, rfl, rfl, rfl⟩⟩
    rintro ⟨o, fit⟩
    cases (fit.loaded loaded).1
  | unreadable loaded => exact absurd (Prod.mk.inj loaded).1 (answers id s _)
  | closed loaded closed =>
    refine ⟨_, rfl, .inl ⟨?_, rfl, rfl, rfl⟩⟩
    rintro ⟨o, fit⟩
    obtain ⟨found, isOpen, -⟩ := fit.loaded loaded
    cases found
    exact closed isOpen
  | unfit loaded _ reviewed unfit =>
    obtain ⟨writes, prints, confirms⟩ := writes_read (reviewed.asked (asks_review settings _))
    refine ⟨_, rfl, .inl ⟨?_, by simp [statusWrite?, writes], by simp [printed?, prints],
      by simp [confirmation?, confirms]⟩⟩
    rintro ⟨o, fit⟩
    obtain ⟨-, -, valid⟩ := fit.loaded loaded
    rw [reviewed.eq_run.1, unfit] at valid
    cases valid
  | attempted loaded isOpen reviewed fit attempt =>
    obtain ⟨writes, prints, confirms⟩ := writes_read (reviewed.asked (asks_review settings _))
    refine ⟨_, rfl, .inr ⟨_, fit_of_loaded loaded isOpen reviewed fit, ?_⟩⟩
    simpa [statusWrite?, printed?, confirmation?, writes, prints, confirms]
      using writes_attempt attempt

/-- A store in memory answers with orders only. Here every call works, so the order bears all marks
in turn and is completed. -/
theorem statusWrites_process_desk :
    let now : Timestamp := default
    let respond := MemoryStore.desk now
    let s := MemoryStore.sample 5 3
    let es := (process now {} "order-1").trace respond s
    (∀ id s w, (respond (.store (.find (.text id))) s).1 ≠ .ok (.other w)) ∧
      ∃ o report receipt, Fit respond {} "order-1" s o ∧
        ((process now {} "order-1").run respond s).1 = .ok report ∧ report.success = true ∧
        statusWrites es = [validatedWrite now o true, processingWrite o true, ledgerWrite o true,
          completedWrite o true] ∧
        printed es = [some receipt] ∧ confirmations es = [(o.id, some receipt)] := by
  intro now respond s es
  have answers (id : String) (s : MemoryStore) (w : Value) :
      (respond (.store (.find (.text id))) s).1 ≠ .ok (.other w) := by
    show (s.find (.text id)).map Found.ofOption ≠ _
    rw [MemoryStore.find_text]
    cases s.orders.get? (.text id) <;> exact fun h => by cases h
  have taken : (statusWrites es).map StatusWrite.taken = [true, true, true, true] := by
    decide +kernel
  obtain ⟨report, run, ⟨-, unwritten, -⟩ | ⟨o, fit, course⟩⟩ :=
    statusWrites_process respond answers now {} "order-1" s
  · rw [unwritten] at taken
    cases taken
  refine ⟨answers, o, report, ?_⟩
  -- Four marks that are all taken are those of an order that is completed and bore no ledger mark.
  generalize report.success = succeeded, statusWrites es = writes, printed es = receipts,
    confirmations es = confirmed at course taken ⊢
  cases course with
  | unvalidated | unmarked | unprinted => simp [validatedWrite, processingWrite] at taken
  | uncompleted receipt ledger undone =>
    unfold ledgerWrites at taken
    split at taken <;> simp [completedWrite] at taken
  | completed receipt ledger =>
    unfold ledgerWrites at taken ⊢
    split at taken
    · cases taken
    next unmarked =>
      obtain ⟨-, -, rfl⟩ : _ ∧ _ ∧ ledger = true := by
        simpa [ledgerWrite, completedWrite] using taken
      exact ⟨receipt, fit, run, rfl, by simp [unmarked], rfl, rfl⟩

end Processing

end Fulfilment
