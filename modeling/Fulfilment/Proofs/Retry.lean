import Fulfilment.Proofs.Adjusting
import Fulfilment.Proofs.Fitness

/-!
# Trying an order again

An order that fails at a required step is made pending again, to be tried once more. Where it fails
before the stock is adjusted, nothing is lost. Where it fails at the last mark, the stock has
already been adjusted for it, and the next attempt is reviewed against the stock that is left: it
goes through if there is as much left as the order itself took, and is refused as not valid
otherwise.

## Main definitions

* `Hitch` - the required steps
* `Hitched` - the desk at which one required step fails, or none, and every other call works
* `MemoryStore.outcome` - what an order and the stock have come to

## Main results

* `process_hitched` - the outcome of an attempt, with or without a hitch
* `retry_iff` - when trying again makes up for a hitch
-/

namespace Fulfilment

open Program Processing

/-- A step of processing that is required. -/
inductive Hitch where
  /-- The order is marked as validated. -/
  | validated
  /-- The order is marked as being processed. -/
  | processing
  /-- The receipt is printed. -/
  | receipt
  /-- The order is marked as completed. -/
  | completed
deriving DecidableEq, Repr

/-- Whether a call is the one of a step. -/
def Hitch.concerns : Hitch → DeskCall → Bool
  | validated, .store (.write _ .validated _) => true
  | processing, .store (.write _ .processing []) => true
  | receipt, .print _ => true
  | completed, .store (.write _ .completed _) => true
  | _, _ => false

/-- Whether a call is the one of the step that fails. -/
def Hitch.hits (h : Option Hitch) (c : DeskCall) : Bool := h.any (·.concerns c)

/-- Whether the step of a call has failed: a mark is not taken, or no receipt is printed. -/
def Breaks : DeskEvent → Prop
  | ⟨.store (.write ..), r⟩ => taken r = false
  | ⟨.print _, r⟩ => ∃ f, r = .error f
  | _ => True

/-- One required step fails and leaves the store as it is, or none fails. Every other call works. -/
def Hitched (h : Option Hitch) (now : Timestamp) : DeskEnvironment MemoryStore := fun s e u =>
  (Hitch.hits h e.1 = true ∧ Breaks e ∧ u = s) ∨ (Hitch.hits h e.1 = false ∧ Healthy now s e u)

/-- What is replied where a step fails. -/
def failing : (c : DeskCall) → c.Reply
  | .store c => c.failed (.raised .connection "unreachable")
  | .print _ | .confirm .. | .tell .. => .error (.raised .connection "unreachable")
  | .pause _ => ()

namespace MemoryStore

/-- A desk with a hitch, or none. -/
def hitchedDesk (h : Option Hitch) (now : Timestamp) :
    Responder DeskCall DeskCall.Reply MemoryStore :=
  fun c s => if Hitch.hits h c then (failing c, s) else desk now c s

/-- The status and the ledger mark of an order, and the products. -/
def outcome (s : MemoryStore) (id : String) : Option (Status × Value) × Products :=
  ((s.order? id).map fun o => (o.status, o.stockAdjusted), s.products)

end MemoryStore

variable {s t u v w : MemoryStore} {now now' now'' : Timestamp} {id : String}
  {settings : OrderSettings} {o : Order} {h : Option Hitch} {e : DeskEvent} {status : Status}
  {mark : Value} {changes : List Change} {ms ms' ms'' ns : List (DeskMoment MemoryStore)}
  {success : Bool}

/-! ### The desk with a hitch -/

theorem Healthy.hitched (healthy : Healthy now s e u) : Hitched none now s e u :=
  .inr ⟨rfl, healthy⟩

theorem hitched_desk (replied : Environment.of (MemoryStore.hitchedDesk h now) s e u) :
    Hitched h now s e u := by
  obtain ⟨c, r⟩ := e
  have replied : MemoryStore.hitchedDesk h now c s = (r, u) := replied
  unfold MemoryStore.hitchedDesk at replied
  split at replied
  next hit =>
    cases replied
    refine .inl ⟨hit, ?_, rfl⟩
    obtain (_ | _) | _ | _ | _ | _ := c <;> first | rfl | trivial | exact ⟨_, rfl⟩
  next free => exact .inr ⟨Bool.eq_false_iff.mpr free, healthy_desk replied⟩

theorem Hitched.disturbed (hitched : Hitched h now s e u) : Disturbed now s e u := by
  rcases hitched with ⟨hit, breaks, rfl⟩ | ⟨-, healthy⟩
  · refine .inr ⟨?_, rfl⟩
    obtain ⟨(_ | _) | _ | _ | _ | _, r⟩ := e <;> first | exact breaks | trivial | skip
    all_goals
      rcases h with _ | (_ | _ | _ | _) <;> cases hit
  · exact healthy.undisturbed.disturbed

theorem Hitched.undisturbed (hitched : Hitched h now s e u) (free : Hitch.hits h e.1 = false) :
    Undisturbed now s e u := by
  rcases hitched with ⟨hit, -⟩ | ⟨-, healthy⟩
  · rw [free] at hit
    cases hit
  · exact healthy.undisturbed

theorem hits_of_isRead {c : DeskCall} (read : c.IsRead) : Hitch.hits h c = false := by
  rcases h with _ | (_ | _ | _ | _) <;> obtain (_ | _) | _ := c <;> first | rfl | cases read

theorem hits_of_isStock {c : DeskCall} (stock : c.IsStock) : Hitch.hits h c = false := by
  rcases h with _ | (_ | _ | _ | _) <;> obtain (_ | _) | _ := c <;> first | rfl | cases stock

@[simp] theorem hits_validated (pid : Value) :
    Hitch.hits h (.store (.write pid .validated changes)) = decide (h = some .validated) := by
  rcases h with _ | (_ | _ | _ | _) <;> rfl

@[simp] theorem hits_processing (pid : Value) :
    Hitch.hits h (.store (.write pid .processing [])) = decide (h = some .processing) := by
  rcases h with _ | (_ | _ | _ | _) <;> rfl

@[simp] theorem hits_completed (pid : Value) :
    Hitch.hits h (.store (.write pid .completed changes)) = decide (h = some .completed) := by
  rcases h with _ | (_ | _ | _ | _) <;> rfl

@[simp] theorem hits_pending (pid : Value) :
    Hitch.hits h (.store (.write pid .pending changes)) = false := by
  rcases h with _ | (_ | _ | _ | _) <;> rfl

@[simp] theorem hits_ledger (pid mark : Value) :
    Hitch.hits h (.store (.write pid .processing [.stockAdjusted mark])) = false := by
  rcases h with _ | (_ | _ | _ | _) <;> rfl

/-- A status write of an order that is in the store is taken, unless it is the one that fails. -/
theorem Hitched.taken_eq {r : Except Failure Value} (course : ∀ c ∈ changes, c.isOfCourse = true)
    {before : Status} (holds : s.Holds id o before mark)
    (hitched : Hitched h now s (wrote (.text id) status changes r) u) :
    taken r = !Hitch.hits h (.store (.write (.text id) status changes)) := by
  rcases hitched with ⟨hit, breaks, -⟩ | ⟨free, healthy⟩
  · have refused : taken r = false := breaks
    have hit : Hitch.hits h (.store (.write (.text id) status changes)) = true := hit
    rw [refused, hit]
    rfl
  · have free : Hitch.hits h (.store (.write (.text id) status changes)) = false := free
    rw [healthy.undisturbed.accepts course holds, free]
    rfl

/-- A receipt is printed, unless this is the step that fails. -/
theorem Hitched.printed {pid : Value} {r : Except Failure String}
    (hitched : Hitched h now s ⟨.print pid, r⟩ u) :
    (h = some .receipt ↔ ∃ f, r = .error f) ∧ u = s := by
  rcases hitched with ⟨hit, breaks, rfl⟩ | ⟨free, ⟨receipt, rfl⟩, rfl⟩
  · refine ⟨⟨fun _ => breaks, fun _ => ?_⟩, rfl⟩
    rcases h with _ | (_ | _ | _ | _) <;> first | rfl | cases hit
  · refine ⟨⟨fun same => ?_, fun ⟨f, failed⟩ => by cases failed⟩, rfl⟩
    subst same
    cases free

/-- Whether the stock is adjusted before the step that fails. -/
def Hitch.isLate (h : Option Hitch) : Bool := h = none || h = some .completed

/-- The end of the way, where only the last step can still fail. -/
theorem closing_hitched (quantities : ∀ l ∈ o.lines, ∃ n, l.quantity = .count n)
    (named : o.id = .text id) (counted : Counted s.products)
    (holds : s.Holds id o .processing o.stockAdjusted)
    (closing : Closing (Hitched h now) o s ms success v) :
    (success = true ↔ h ≠ some .completed) ∧
      v.Holds id o (if success then .completed else .processing) o.adjustedMark ∧
      v.products = o.adjusted s.products := by
  have adjusts {u : MemoryStore} {ns : List (DeskMoment MemoryStore)}
      (adjusted : Adjustment (Hitched h now) o s ns u) :
      u.products = o.adjusted s.products ∧ u.Holds id o .processing o.adjustedMark := by
    have carried : Adjustment (Undisturbed now) o s ns u :=
      adjusted.mono_of_asks (fun _ _ _ stock hitched => hitched.undisturbed (hits_of_isStock stock))
        fun _ _ _ hitched => hitched.undisturbed (hits_ledger ..)
    simpa using adjustment_undisturbed counted quantities named holds carried
  cases closing with
  | uncompleted adjusted completed refused =>
    obtain ⟨products, marked⟩ := adjusts adjusted
    rw [named] at completed
    have hit := completed.taken_eq (by simp) marked
    obtain rfl := completed.disturbed.refused (by simp) refused
    exact ⟨by simpa [refused] using hit, marked, products⟩
  | completed adjusted completed accepted told =>
    obtain ⟨products, marked⟩ := adjusts adjusted
    rw [named] at completed
    have hit := completed.taken_eq (by simp) marked
    obtain ⟨last, same⟩ := completed.disturbed.accepted (by simp) accepted marked
    obtain rfl := told.disturbed.aside (by simp)
    exact ⟨by simpa [accepted] using hit, last, same.trans products⟩

/-- The way through the steps, with or without a hitch. -/
theorem passage_hitched (ready : s.Ready id o)
    (passage : Passage (Hitched h now) now o s ms success v) :
    success = h.isNone ∧
      (∃ status, v.Holds id o status (if Hitch.isLate h then o.adjustedMark else o.stockAdjusted) ∧
        (h = none → status = .completed)) ∧
      v.products = if Hitch.isLate h then o.adjusted s.products else s.products := by
  have holds := MemoryStore.holds_of_order? ready.found
  cases passage with
  | unvalidated validated refused =>
    rw [ready.named] at validated
    have hit := validated.taken_eq (by simp [Change.isOfCourse]) holds
    obtain rfl : h = some .validated := by simpa [refused] using hit
    obtain rfl := validated.disturbed.refused (by simp [Change.isOfCourse]) refused
    exact ⟨rfl, ⟨_, holds, by simp⟩, rfl⟩
  | unmarked validated accepted marked refused =>
    rw [ready.named] at validated marked
    obtain ⟨first, same⟩ :=
      validated.disturbed.accepted (by simp [Change.isOfCourse]) accepted holds
    have hit := marked.taken_eq (by simp) first
    obtain rfl : h = some .processing := by simpa [refused] using hit
    obtain rfl := marked.disturbed.refused (by simp) refused
    exact ⟨rfl, ⟨_, first, by simp⟩, same⟩
  | unprinted validated accepted marked accepted' printed =>
    rw [ready.named] at validated marked
    obtain ⟨holds, products⟩ :=
      Disturbed.opened holds validated.disturbed accepted marked.disturbed accepted'
    obtain ⟨hit, rfl⟩ := printed.printed
    obtain rfl := hit.mpr ⟨_, rfl⟩
    exact ⟨rfl, ⟨_, holds, by simp⟩, products⟩
  | printed receipt validated accepted marked accepted' printed confirmed closing =>
    rw [ready.named] at validated marked
    obtain ⟨first, -⟩ := validated.disturbed.accepted (by simp [Change.isOfCourse]) accepted holds
    obtain ⟨second, products⟩ :=
      Disturbed.opened holds validated.disturbed accepted marked.disturbed accepted'
    have notFirst := validated.taken_eq (by simp [Change.isOfCourse]) holds
    have notSecond := marked.taken_eq (by simp) first
    obtain ⟨notThird, rfl⟩ := printed.printed
    obtain rfl := confirmed.disturbed.aside (by simp)
    obtain ⟨notLast, done, closed⟩ := closing_hitched ready.quantities ready.named
      (by rw [products]; exact ready.stocked) second closing
    -- The steps up to here have worked, so none of them is the one that fails.
    obtain rfl | rfl : h = none ∨ h = some .completed := by
      rcases h with _ | (_ | _ | _ | _) <;> simp_all
    · obtain rfl : success = true := notLast.mpr (by simp)
      rw [products] at closed
      exact ⟨rfl, ⟨_, done, fun _ => rfl⟩, closed⟩
    · obtain rfl : success = false := by simpa using notLast
      rw [products] at closed
      exact ⟨rfl, ⟨_, done, by simp⟩, closed⟩

/-! ### Attempts and their outcome -/

/-- The attempt at an order that is fit, with or without a hitch. -/
theorem attempt_hitched (ready : s.Ready id o)
    (attempt : Attempt (Hitched h now) now o (.text id) s ms success v) :
    success = h.isNone ∧
      v.Holds id o (if success then .completed else .pending)
        (if Hitch.isLate h then o.adjustedMark else o.stockAdjusted) ∧
      v.products = if Hitch.isLate h then o.adjusted s.products else s.products := by
  cases attempt with
  | passed passage =>
    obtain ⟨hit, ⟨status, holds, completed⟩, products⟩ := passage_hitched ready passage
    obtain rfl := completed (by simpa using hit)
    exact ⟨hit, holds, products⟩
  | undone reply passage undo =>
    obtain ⟨hit, ⟨status, holds, -⟩, products⟩ := passage_hitched ready passage
    have accepted : taken reply = true := by simpa using undo.taken_eq (by simp) holds
    obtain ⟨holds, same⟩ := undo.disturbed.accepted (by simp) accepted holds
    exact ⟨hit, holds, same.trans products⟩

/-- An order that is open is refused if it is not fit. Otherwise it is attempted, and fails if and
only if there is a hitch. -/
theorem process_hitched {a : Except Failure Report} (ready : s.Ready id o)
    (isOpen : o.status.IsOpen)
    (run : Runs (Hitched h now) (process now settings (.text id)) s ms a v) :
    ∃ report, a = .ok report ∧
      ((¬ s.IsFit settings o ∧ report.success = false ∧ report.message = "Order is not valid" ∧
          v = s) ∨
        (s.IsFit settings o ∧ report.success = h.isNone ∧
          report.message = attemptMessage report.success ∧
          v.Holds id o (if report.success then .completed else .pending)
            (if Hitch.isLate h then o.adjustedMark else o.stockAdjusted) ∧
          v.products = if Hitch.isLate h then o.adjusted s.products else s.products)) := by
  have reads (s e u) (read : DeskCall.IsRead e.1) (hitched : Hitched h now s e u) :
      Undisturbed now s e u := hitched.undisturbed (hits_of_isRead read)
  obtain ⟨report, same, unfit | ⟨fit, message, _, ns, -, -, -, attempt⟩⟩ :=
    course_of_ready reads ready.found isOpen run
  · exact ⟨report, same, .inl unfit⟩
  · obtain ⟨hit, holds, products⟩ := attempt_hitched ready attempt
    exact ⟨report, same, .inr ⟨fit, hit, message, holds, products⟩⟩

theorem outcome_eq {status : Status} (holds : s.Holds id o status mark) :
    s.outcome id = (some (status, mark), s.products) := by
  obtain ⟨o', found, -, rfl, rfl⟩ := holds
  simp [MemoryStore.outcome, found]

/-- An order that is left pending by a hitch can be adjusted again. -/
theorem ready_again {o' : Order} (ready : s.Ready id o) (found : u.order? id = some o')
    (content : o.SameContent o')
    (products : u.products = if Hitch.isLate h then o.adjusted s.products else s.products) :
    u.Ready id o' := by
  refine ⟨found, content.id.trans ready.named, content.lines ▸ ready.quantities, ?_⟩
  rw [products]
  split
  · exact counted_adjusted ready.stocked ready.quantities
  · exact ready.stocked

/-- Adjusting the stock again comes to the same as adjusting it once: what has been done before the
hitch is passed over, and what has not is done. -/
theorem adjusted_again {o' : Order} (ps : Products) (content : o.SameContent o')
    (marked : o'.stockAdjusted = if Hitch.isLate h then o.adjustedMark else o.stockAdjusted) :
    o'.adjustedMark = o.adjustedMark ∧
      o'.adjusted (if Hitch.isLate h then o.adjusted ps else ps) = o.adjusted ps := by
  split at marked
  next late =>
    have truthy : o'.stockAdjusted.truthy = true := marked ▸ o.truthy_adjustedMark
    rw [if_pos late]
    exact ⟨by rw [Order.adjustedMark, if_pos truthy, marked], by rw [Order.adjusted, if_pos truthy]⟩
  next early =>
    rw [if_neg early]
    unfold Order.adjustedMark Order.adjusted
    rw [marked, content.lines]
    exact ⟨rfl, rfl⟩

/-- After a hitch an order is fit, unless it is the last mark that failed, and there is not as much
left as the order itself took. -/
theorem isFit_after_hitch {k : Hitch} {o' : Order} (fit : s.IsFit settings o) (ready : s.Ready id o)
    (again : u.Ready id o') (content : o.SameContent o')
    (products : u.products = if Hitch.isLate (some k) then o.adjusted s.products else s.products)
    (undisturbed : w.products = o.adjusted s.products) :
    u.IsFit settings o' ↔
      (k = .completed → o.stockAdjusted.truthy = false → ∀ l ∈ o.lines, w.HasLeft l) := by
  have before : ∀ l ∈ o.lines, s.HasLeft l :=
    (MemoryStore.isFit_again fit ready.stocked ready.stocked ready.quantities (.refl o)).mp fit
  rw [MemoryStore.isFit_again fit ready.stocked again.stocked ready.quantities content]
  constructor
  · rintro left rfl - l mem
    exact (MemoryStore.hasLeft_congr (products.trans undisturbed.symm)).mp (left l mem)
  · intro left l mem
    -- Only a hitch at the last mark comes after the stock has been adjusted.
    by_cases late : k = .completed
    · subst late
      cases marked : o.stockAdjusted.truthy with
      | false =>
        have same : u.products = w.products := products.trans undisturbed.symm
        exact (MemoryStore.hasLeft_congr same).mpr (left rfl marked l mem)
      | true =>
        have same : u.products = s.products := by
          simpa [Hitch.isLate, Order.adjusted, marked] using products
        exact (MemoryStore.hasLeft_congr same).mpr (before l mem)
    · have same : u.products = s.products := by simpa [Hitch.isLate, late] using products
      exact (MemoryStore.hasLeft_congr same).mpr (before l mem)

/-- An order that a single required step held up is tried again, and nothing fails any more. It is
completed as if there had been no hitch if and only if the hitch was not at the last mark, or the
stock had been adjusted for the order before, or as many pieces are left for each line as the order
took. Otherwise it is refused as not valid, although an undisturbed attempt would have completed
it. -/
theorem retry_iff {k : Hitch} {first : Report} {a b : Except Failure Report} (proper : s.Proper)
    (found : s.order? id = some o) (pending : o.status = .pending)
    (undisturbed : Runs (Healthy now) (process now settings (.text id)) s ms (.ok first) w)
    (succeeds : first.success = true)
    (hitch : Runs (Hitched (some k) now') (process now' settings (.text id)) s ms' a u)
    (retry : Runs (Healthy now'') (process now'' settings (.text id)) u ms'' b v) :
    ∃ failure again, a = .ok failure ∧ failure.success = false ∧
      failure.message = "Error processing order" ∧ b = .ok again ∧
      ((again.success = true ∧ v.outcome id = w.outcome id) ↔
        (k = .completed → o.stockAdjusted.truthy = false → ∀ l ∈ o.lines, w.HasLeft l)) ∧
      (again.success = false → again.message = "Order is not valid" ∧ v = u) := by
  have ready := proper.ready found
  have isOpen : o.status.IsOpen := by simp [Status.IsOpen, pending]
  obtain ⟨_, same, ⟨-, fails, -⟩ | ⟨fit, -, -, completed, taken⟩⟩ :=
    process_hitched ready isOpen (undisturbed.mono fun _ _ _ => Healthy.hitched)
  all_goals cases same
  · rw [succeeds] at fails
    cases fails
  rw [if_pos succeeds] at completed
  obtain ⟨failure, rfl, ⟨unfit, -⟩ | ⟨-, success, message, ⟨o', found', content, status, marked⟩,
      products⟩⟩ :=
    process_hitched ready isOpen hitch
  · exact absurd fit unfit
  have failed : failure.success = false := success
  rw [failed] at message status
  have isOpen' : o'.status.IsOpen := by simp [Status.IsOpen, status]
  -- From here on the second attempt is treated like the first, with the store that the hitch left.
  have ready' := ready_again ready found' content products
  have fit_iff := isFit_after_hitch fit ready ready' content products taken
  obtain ⟨again, rfl, ⟨unfit, fails, message', same⟩ | ⟨fit', success', -, completed', taken'⟩⟩ :=
    process_hitched ready' isOpen' (retry.mono fun _ _ _ => Healthy.hitched)
  all_goals
    refine ⟨failure, again, rfl, failed, message, rfl, ?_⟩
    rw [← fit_iff]
  · refine ⟨⟨fun ⟨succeeds', _⟩ => ?_, fun fit' => absurd fit' unfit⟩, fun _ => ⟨message', same⟩⟩
    rw [fails] at succeeds'
    cases succeeds'
  · have succeeds' : again.success = true := success'
    rw [if_pos succeeds'] at completed'
    obtain ⟨mark, taken''⟩ := adjusted_again s.products content marked
    have outcome : v.outcome id = w.outcome id := by
      rw [outcome_eq completed', outcome_eq completed, taken', taken, products]
      show (some (Status.completed, o'.adjustedMark), o'.adjusted _) =
        (some (.completed, o.adjustedMark), o.adjusted s.products)
      rw [mark, taken'']
    refine ⟨⟨fun _ => fit', fun _ => ⟨succeeds', outcome⟩⟩, fun fails => ?_⟩
    rw [succeeds'] at fails
    cases fails

open MemoryStore (desk hitchedDesk)

/-- Of nine pieces an order takes three, the last mark fails, and there are enough left to take
three again. -/
theorem retry_iff_sample :
    let s := MemoryStore.sample 9 3
    s.Proper ∧ ∃ o ms first w ms' a u ms'' b v, s.order? "order-1" = some o ∧
      o.status = .pending ∧
      Runs (Healthy default) (process default {} "order-1") s ms (.ok first) w ∧
      first.success = true ∧
      Runs (Hitched (some .completed) default) (process default {} "order-1") s ms' a u ∧
      Runs (Healthy default) (process default {} "order-1") u ms'' b v ∧
      ∃ failure again, a = .ok failure ∧ failure.success = false ∧
        failure.message = "Error processing order" ∧ b = .ok again ∧
        ((again.success = true ∧ v.outcome "order-1" = w.outcome "order-1") ↔
          (Hitch.completed = .completed → o.stockAdjusted.truthy = false →
            ∀ l ∈ o.lines, w.HasLeft l)) ∧
        (again.success = false → again.message = "Order is not valid" ∧ v = u) := by
  intro s
  have completes : ((process default {} "order-1").run (desk default) s).1.toOption =
      some { success := true, orderId := "order-1", message := "Order processed successfully",
             warnings := some [] } := by decide +kernel
  have proper : s.Proper := MemoryStore.proper_sample 9 3
  obtain ⟨ms, undisturbed⟩ := exists_runs_report (fun _ _ _ => healthy_desk) completes
  obtain ⟨ms', hitch, -⟩ :=
    runs_run (hitchedDesk (some .completed) default) (process default {} "order-1") s
  obtain ⟨ms'', retry, -⟩ := runs_run (desk default) (process default {} "order-1")
    ((process default {} "order-1").run (hitchedDesk (some .completed) default) s).2
  have hitch := hitch.mono fun _ _ _ => hitched_desk
  have retry := retry.mono fun _ _ _ => healthy_desk
  exact ⟨proper, _, ms, _, _, ms', _, _, ms'', _, _, rfl, rfl, undisturbed, rfl, hitch, retry,
    retry_iff proper rfl rfl undisturbed rfl hitch retry⟩

/-- Of five pieces an order takes three. Undisturbed it is completed. When the last mark fails and
the order is tried again, with nothing failing any more, it finds two pieces left and is refused. -/
theorem retry_refused_sample :
    let s := MemoryStore.sample 5 3
    s.Proper ∧ ∃ o ms first w ms' failure u ms'' again v, s.order? "order-1" = some o ∧
      o.status = .pending ∧
      Runs (Healthy default) (process default {} "order-1") s ms (.ok first) w ∧
      first.success = true ∧
      Runs (Hitched (some .completed) default) (process default {} "order-1") s ms'
        (.ok failure) u ∧
      failure.message = "Error processing order" ∧
      Runs (Healthy default) (process default {} "order-1") u ms'' (.ok again) v ∧
      again.success = false ∧
      again.errors =
        some ["Insufficient stock for Desk Lamp. Available: 2, requested: 3"] := by
  intro s
  have completes : ((process default {} "order-1").run (desk default) s).1.toOption =
      some { success := true, orderId := "order-1", message := "Order processed successfully",
             warnings := some [] } := by decide +kernel
  have fails : ((process default {} "order-1").run (hitchedDesk (some .completed) default)
      s).1.toOption = some { success := false, orderId := "order-1",
                             message := "Error processing order",
                             errors := some ["unreachable"] } := by decide +kernel
  have refused : ((process default {} "order-1").run (desk default)
      ((process default {} "order-1").run (hitchedDesk (some .completed) default)
        s).2).1.toOption =
      some { success := false, orderId := "order-1", message := "Order is not valid",
             errors := some ["Insufficient stock for Desk Lamp. Available: 2, requested: 3"],
             warnings := some [] } := by decide +kernel
  obtain ⟨ms, undisturbed⟩ := exists_runs_report (fun _ _ _ => healthy_desk) completes
  obtain ⟨ms', hitch⟩ := exists_runs_report (fun _ _ _ => hitched_desk) fails
  obtain ⟨ms'', retry⟩ := exists_runs_report (fun _ _ _ => healthy_desk) refused
  exact ⟨MemoryStore.proper_sample 5 3, _, ms, _, _, ms', _, _, ms'', _, _, rfl, rfl, undisturbed,
    rfl, hitch, rfl, retry, rfl, rfl⟩

end Fulfilment
