import Fulfilment.Proofs.Batch
import Fulfilment.Proofs.Lifecycle
import Fulfilment.Proofs.StatusWrites

/-!
# Calling off an order that is being processed

Processing looks at the status of an order once, when the order is loaded, and from then on writes
statuses whatever the store says. An order may be called off in between. Whether it stays called off
depends on the writes that are still to come: it does if there are none, that is, if the order is
not fit or the write that ends its processing has been made already. Otherwise the order ends
completed or pending, as its report says, and the calling off is lost.

## Main definitions

* `Program.Reaches` - how far a program has come, and what is left of it
* `Program.walk` - what is left of a program after so many calls to a responder
* `Interrupted` - the processing of an order that is called off on the way

## Main results

* `Program.Reaches.unwatched` - two parts of a run whose states do not fit together
* `Processing.WriteCourse.split_last` - the last write of an attempt, and the ones before it
* `MemoryStore.follows`, `taken_of_runs` - what status writes leave of a store in memory
* `stays_cancelled_iff` - whether an order that is called off on the way stays so
-/

namespace Fulfilment

namespace Program

variable {Call : Type} {Reply : Call → Type} {α σ : Type} {env env' : Environment Call Reply σ}
  {s t u v : σ} {ms ks : List (Moment Call Reply σ)} {p q : Program Call Reply α} {a : α}

/-- How far a program has come: what was done, and what is left of the program. -/
inductive Reaches (env : Environment Call Reply σ) : Program Call Reply α → σ →
    List (Moment Call Reply σ) → Program Call Reply α → σ → Prop where
  | here (p : Program Call Reply α) (s : σ) : Reaches env p s [] p s
  | call {c : Call} {next : Reply c → Program Call Reply α} {s u v : σ} {r : Reply c}
      {ms : List (Moment Call Reply σ)} {q : Program Call Reply α} (answered : env s ⟨c, r⟩ u)
      (rest : Reaches env (next r) u ms q v) : Reaches env (call c next) s ((⟨c, r⟩, u) :: ms) q v

/-- What is left of a program after so many calls, and the state that a responder leaves. -/
def walk (respond : Responder Call Reply σ) :
    Nat → Program Call Reply α → σ → Program Call Reply α × σ
  | 0, p, s => (p, s)
  | _ + 1, done a, s => (done a, s)
  | n + 1, call c next, s => walk respond n (next (respond c s).1) (respond c s).2

/-- The program that makes the calls of some events, whatever is replied. -/
def script (es : List (Event Call Reply)) : Program Call Reply Unit :=
  es.foldr (fun e q => .call e.1 fun _ => q) (.done ())

theorem Reaches.mono (h : Reaches env p s ms q v) (le : ∀ s e u, env s e u → env' s e u) :
    Reaches env' p s ms q v := by
  induction h with
  | here p s => exact .here p s
  | call answered _ ih => exact .call (le _ _ _ answered) ih

theorem reaches_walk (respond : Responder Call Reply σ) (n : Nat) (p : Program Call Reply α)
    (s : σ) : ∃ ms, Reaches (.of respond) p s ms (walk respond n p s).1 (walk respond n p s).2 ∧
      events ms = (trace respond p s).take n := by
  induction n generalizing p s with
  | zero => exact ⟨[], .here p s, rfl⟩
  | succ n ih =>
    cases p with
    | done a => exact ⟨[], .here _ s, rfl⟩
    | call c next =>
      obtain ⟨ms, rest, same⟩ := ih (next (respond c s).1) (respond c s).2
      refine ⟨(⟨c, (respond c s).1⟩, (respond c s).2) :: ms, .call rfl rest, ?_⟩
      rw [events_cons, same]
      rfl

/-- What was done on the way is a run of its own. -/
theorem Reaches.runs_script (h : Reaches env p s ms q v) :
    Runs env (script (events ms)) s ms () v := by
  induction h with
  | here p s => exact .done () s
  | call answered _ ih => exact .call answered ih

/-- Every run is one in an environment that does not look at the state. -/
theorem Runs.unwatched (h : Runs env p s ms a v) :
    ∃ ls, Runs (σ := Unit) (fun _ _ _ => True) p () ls a () ∧ events ls = events ms := by
  induction h with
  | done a s => exact ⟨[], .done a (), rfl⟩
  | @call c next s u v r ms a answered _ ih =>
    obtain ⟨ls, rest, same⟩ := ih
    exact ⟨(⟨c, r⟩, ()) :: ls, .call trivial rest, by rw [events_cons, events_cons, same]⟩

/-- What was done on the way, and what was done later from any other state, is a run where nobody
looks at the state. -/
theorem Reaches.unwatched (h : Reaches env p s ms q t) (rest : Runs env' q u ks a v) :
    ∃ ls, Runs (σ := Unit) (fun _ _ _ => True) p () ls a () ∧
      events ls = events ms ++ events ks := by
  induction h with
  | here p s => exact rest.unwatched
  | @call c next s u v r ms q answered _ ih =>
    obtain ⟨ls, whole, same⟩ := ih rest
    exact ⟨(⟨c, r⟩, ()) :: ls, .call trivial whole, by rw [events_cons, events_cons, same]; rfl⟩

end Program

open Program Processing

/-- The processing of an order of a store in memory that is called off on the way: what was done
first, which is the loading of the order at least, then the calling off, and then the rest. The
store carries out every call. -/
inductive Interrupted (now now' : Timestamp) (settings : OrderSettings) (id : String)
    (reason : Value) : MemoryStore → List (DeskMoment MemoryStore) →
      List (DeskMoment MemoryStore) → List (DeskMoment MemoryStore) → Bool →
      Except Failure Report → MemoryStore → Prop where
  | intro {s t u v : MemoryStore} {ms ns ks : List (DeskMoment MemoryStore)}
      {q : DeskProgram (Except Failure Report)} {success : Bool} {a : Except Failure Report}
      (loaded : ms ≠ [])
      (first : Reaches (Undisturbed now) (process now settings (.text id)) s ms q t)
      (calledOff : Runs (Undisturbed now') (cancel now' settings (.text id) reason) t ns success u)
      (rest : Runs (Undisturbed now) q u ks a v) :
      Interrupted now now' settings id reason s ms ns ks success a v

/-! ### The last write of an attempt -/

section Writes

variable {now : Timestamp} {o : Order} {key : Value} {ws : List StatusWrite}
  {receipts : List (Option String)} {confirms : List (Value × Option String)} {success : Bool}

theorem mem_ledgerWrites {took : Bool} {w : StatusWrite} (mem : w ∈ ledgerWrites o took) :
    w = ledgerWrite o took := by
  unfold ledgerWrites at mem
  split at mem
  · cases mem
  · exact List.mem_singleton.mp mem

/-- The last write of an attempt is for the status in which it ends. The ones before it are marks on
the way, or were not taken. -/
theorem Processing.WriteCourse.split_last
    (h : WriteCourse now o key ws receipts confirms success) :
    ∃ earlier w, ws = earlier ++ [w] ∧ w.status = ended success ∧
      ∀ w' ∈ earlier, w'.taken = true → w'.status.IsHalfway := by
  have validated (took : Bool) : (validatedWrite now o took).status.IsHalfway := .inl rfl
  have processing (took : Bool) : (processingWrite o took).status.IsHalfway := .inr rfl
  have ledger (took : Bool) : ∀ w ∈ ledgerWrites o took, w.status.IsHalfway := by
    intro w mem
    rw [mem_ledgerWrites mem]
    exact .inr rfl
  cases h with
  | unvalidated undone =>
    exact ⟨[validatedWrite now o false], pendingWrite key undone, rfl, rfl, by simp [validated]⟩
  | unmarked undone =>
    exact ⟨[validatedWrite now o true, processingWrite o false], pendingWrite key undone, rfl, rfl,
      by simp [validated, processing]⟩
  | unprinted undone =>
    exact ⟨[validatedWrite now o true, processingWrite o true], pendingWrite key undone, rfl, rfl,
      by simp [validated, processing]⟩
  | uncompleted receipt took undone =>
    refine ⟨[validatedWrite now o true, processingWrite o true] ++ ledgerWrites o took ++
      [completedWrite o false], pendingWrite key undone, by simp, rfl, ?_⟩
    intro w mem accepted
    simp only [List.mem_append, List.mem_cons, List.not_mem_nil, or_false] at mem
    rcases mem with ((rfl | rfl) | mem) | rfl
    · exact validated true
    · exact processing true
    · exact ledger took w mem
    · cases accepted
  | completed receipt took =>
    refine ⟨[validatedWrite now o true, processingWrite o true] ++ ledgerWrites o took,
      completedWrite o true, rfl, rfl, ?_⟩
    intro w mem _
    simp only [List.mem_append, List.mem_cons, List.not_mem_nil, or_false] at mem
    rcases mem with (rfl | rfl) | mem
    · exact validated true
    · exact processing true
    · exact ledger took w mem

/-- What is written with a status belongs to the course of an order. -/
theorem Processing.WriteCourse.changes
    (h : WriteCourse now o key ws receipts confirms success) :
    ∀ w ∈ ws, ∀ c ∈ w.changes, c.isOfCourse = true := by
  have ledger (took : Bool) : ∀ w ∈ ledgerWrites o took, ∀ c ∈ w.changes, c.isOfCourse = true := by
    intro w mem
    rw [mem_ledgerWrites mem]
    simp [ledgerWrite, Change.isOfCourse]
  cases h with
  | unvalidated | unmarked | unprinted =>
    simp [validatedWrite, processingWrite, pendingWrite, Change.isOfCourse]
  | uncompleted receipt took undone =>
    simp only [List.forall_mem_append]
    refine ⟨⟨?_, ledger took⟩, ?_⟩
    · simp [validatedWrite, processingWrite, Change.isOfCourse]
    · simp [completedWrite, pendingWrite]
  | completed receipt took =>
    simp only [List.forall_mem_append]
    refine ⟨⟨?_, ledger took⟩, ?_⟩
    · simp [validatedWrite, processingWrite, Change.isOfCourse]
    · simp [completedWrite]

/-- What the events of processing an order tell that begins with the loading of an open order: it is
not fit, and no status is written, or it is attempted. -/
theorem Processing.Course.writes {σ : Type} {env : DeskEnvironment σ} {settings : OrderSettings}
    {id : String} {s v : σ} {ms : List (DeskMoment σ)} {a : Except Failure Report}
    (h : Course env now settings (.text id) s ms a v) (isOpen : o.status.IsOpen)
    (loaded : (events ms).head? = some (looked (.text id) (.ok (.entry o)))) :
    ∃ report, a = .ok report ∧
      ((statusWrites (events ms) = [] ∧ report.message = "Order is not valid") ∨
        report.message = attemptMessage report.success ∧ ∃ receipts confirms,
          WriteCourse now o (.text id) (statusWrites (events ms)) receipts confirms
            report.success) := by
  cases h with
  | unread | missing | unreadable => cases loaded
  | closed _ closed =>
    cases loaded
    exact absurd isOpen closed
  | unfit _ _ reviewed _ _ message =>
    obtain ⟨silent, -, -⟩ := writes_read (reviewed.asked (asks_review settings _))
    exact ⟨_, rfl, .inl ⟨by simp [statusWrite?, silent], message⟩⟩
  | @attempted _ _ _ _ _ _ ns _ _ _ reviewed _ attempt message =>
    cases loaded
    obtain ⟨silent, -, -⟩ := writes_read (reviewed.asked (asks_review settings _))
    refine ⟨_, rfl, .inr ⟨message, printed (events ns), confirmations (events ns), ?_⟩⟩
    simpa [statusWrite?, silent] using writes_attempt attempt

end Writes

/-! ### Status writes in a store in memory -/

namespace MemoryStore

/-- The status of an order. -/
def status? (s : MemoryStore) (id : String) : Option Status := (s.order? id).map (·.status)

theorem isIn_iff {s : MemoryStore} {id : String} {status : Status} :
    s.IsIn id status ↔ s.status? id = some status := by
  simp [IsIn, status?]

theorem disturbed_memory {now : Timestamp} {s u : MemoryStore} {e : DeskEvent}
    (h : Undisturbed now s e u) : Rehearsal.Store.Disturbed now (.memory s) e (.memory u) := by
  obtain ⟨c | _ | _ | _ | _, r⟩ := e
  case store => exact .inl (Rehearsal.Store.respond_memory.mpr ⟨u, rfl, h⟩)
  all_goals
    obtain rfl : u = s := h
    rfl

/-- The statuses in a store in memory follow the writes. -/
theorem follows : Follows Undisturbed Identified status? where
  kept := (typed_undisturbed _).kept
  loaded identified answered :=
    Rehearsal.Store.follows.loaded (s := .memory _) identified (disturbed_memory answered)
  listed := (typed_undisturbed _).listed
  accepted identified answered :=
    Rehearsal.Store.follows.accepted (s := .memory _) identified (disturbed_memory answered)
  refused identified answered :=
    Rehearsal.Store.follows.refused (s := .memory _) identified (disturbed_memory answered)
  aside identified answered :=
    Rehearsal.Store.follows.aside (s := .memory _) identified (disturbed_memory answered)

end MemoryStore

section Memory

variable {now now' : Timestamp} {settings : OrderSettings} {id : String} {reason : Value}
  {s u v : MemoryStore} {ms ns ks : List (DeskMoment MemoryStore)} {success : Bool}
  {a : Except Failure Report}

/-- As long as an order is there, the store takes all writes that belong to its course, and the
order stays there. -/
theorem taken_of_runs {α : Type} {p : DeskProgram α} {b : α} (identified : s.Identified)
    (there : (s.status? id).isSome) (h : Runs (Undisturbed now) p s ms b v)
    (one : ∀ w ∈ statusWrites (events ms), w.id = .text id)
    (course : ∀ w ∈ statusWrites (events ms), ∀ c ∈ w.changes, c.isOfCourse = true) :
    v.Identified ∧ (v.status? id).isSome ∧ ∀ w ∈ statusWrites (events ms), w.taken = true := by
  have follows := MemoryStore.follows
  induction h with
  | done b s => exact ⟨identified, there, by simp⟩
  | @call c next s u v r ms b answered rest ih =>
    rw [events_cons, statusWrites_cons] at one course ⊢
    rw [List.forall_mem_append] at one course
    have kept := follows.kept identified answered
    cases write : statusWrite? ⟨c, r⟩ with
    | none =>
      have still := follows.aside identified answered write id
      simpa [write] using ih kept (still ▸ there) one.2 course.2
    | some w =>
      obtain ⟨reply, same, took⟩ := statusWrite?_eq_some write
      have named : w.id = .text id := one.1 w (by simp [write])
      rw [same, named] at answered
      obtain ⟨o, found⟩ : ∃ o, s.order? id = some o := by
        simpa [MemoryStore.status?, Option.isSome_iff_exists] using there
      have accepted := (answered.wrote (course.1 w (by simp [write])) found).1
      have set := follows.accepted identified answered accepted id
      simpa [write, took, accepted] using ih kept (by simp [set]) one.2 course.2

/-! ### Called off on the way -/

theorem ended_cases (success : Bool) : ended success = .completed ∨ ended success = .pending := by
  cases success
  · exact .inr rfl
  · exact .inl rfl

/-- An order that is called off after some of the writes of an attempt. It stays so if the last
write is one of those, and otherwise the last write decides. -/
theorem statusAfter_calledOff {ws ws' earlier : List StatusWrite} {w : StatusWrite}
    (whole : ws ++ ws' = earlier ++ [w]) (closing : w.status = ended success)
    (halfway : ∀ w' ∈ earlier, w'.taken = true → w'.status.IsHalfway)
    (taken : ∀ w' ∈ ws, w'.taken = true) (taken' : ∀ w' ∈ ws', w'.taken = true) :
    (ws' = [] ∧ ∃ w' ∈ ws, w'.status = .completed ∨ w'.status = .pending) ∨
      statusAfter (some .cancelled) ws' = some (ended success) ∧
        ¬ ∃ w' ∈ ws, w'.status = .completed ∨ w'.status = .pending := by
  rcases List.eq_nil_or_concat ws' with rfl | ⟨later, w', rfl⟩
  · rw [List.append_nil] at whole
    subst whole
    exact .inl ⟨rfl, w, by simp, closing ▸ ended_cases success⟩
  · right
    rw [List.concat_eq_append, ← List.append_assoc] at whole
    obtain ⟨rfl, same⟩ := List.append_inj' whole rfl
    cases same
    constructor
    · rw [← closing]
      exact statusAfter_of_last (by simp) (taken' w (by simp))
    · rintro ⟨w', mem, ended⟩
      -- What was written on the way was taken, so it was a mark.
      rcases halfway w' (List.mem_append_left _ mem) (taken w' mem) with mark | mark <;>
        simp [mark] at ended

/-- An order that is there can be called off. -/
theorem cancelled_of_there (identified : s.Identified) (there : (s.status? id).isSome)
    (h : Runs (Undisturbed now) (cancel now settings (.text id) reason) s ns success u) :
    success = true ∧ u.Identified ∧ u.status? id = some .cancelled := by
  have follows := MemoryStore.follows
  obtain ⟨o, found⟩ : ∃ o, s.order? id = some o := by
    simpa [MemoryStore.status?, Option.isSome_iff_exists] using there
  obtain rfl : success = true := by
    cases callingOff_of_runs h with
    | refused calledOff refused =>
      rw [(calledOff.wrote (by simp [Change.isOfCourse]) found).1] at refused
      cases refused
    | told => rfl
  refine ⟨rfl, h.keeps (fun _ _ _ => follows.kept) identified, ?_⟩
  rw [statuses_cancel follows identified h id, if_pos ⟨rfl, rfl⟩]

/-- A pending order that is called off while it is being processed can always be called off. It
stays so if and only if it is not fit to process, or the write that completes it or makes it pending
again was made before. Otherwise it ends as its report says. -/
theorem stays_cancelled_iff (proper : s.Proper) (pending : s.IsIn id .pending)
    (h : Interrupted now now' settings id reason s ms ns ks success a v) :
    success = true ∧ ∃ report, a = .ok report ∧
      (v.IsIn id .cancelled ↔ report.message = "Order is not valid" ∨
        ∃ w ∈ statusWrites (events ms), w.status = .completed ∨ w.status = .pending) ∧
      (¬ v.IsIn id .cancelled → v.IsIn id (ended report.success)) := by
  obtain ⟨loaded, first, calledOff, rest⟩ := h
  obtain ⟨o, found, status⟩ := pending
  have isOpen : o.status.IsOpen := by simp [Status.IsOpen, status]
  have there : (s.status? id).isSome := by simp [MemoryStore.status?, found]
  -- The order was loaded before it was called off, so processing works on what it was then.
  have head : (events ms).head? = some (looked (.text id) (.ok (.entry o))) := by
    cases first with
    | here => exact absurd rfl loaded
    | @call _ _ _ t _ r _ _ answered rest =>
      have replied : (Except.ok (Found.ofOption (s.order? id)), s) = (r, t) := answered
      rw [found] at replied
      cases replied
      rfl
  obtain ⟨ls, whole, same⟩ := first.unwatched rest
  obtain ⟨report, rfl, writes⟩ := (course_of_runs whole).writes isOpen (by simp [same, head])
  rw [same, statusWrites_append] at writes
  -- All that is written is for this order, so the store takes it before and after.
  have one : ∀ w ∈ statusWrites (events ms) ++ statusWrites (events ks), w.id = .text id ∧
      ∀ c ∈ w.changes, c.isOfCourse = true := by
    rcases writes with ⟨none, -⟩ | ⟨-, receipts, confirms, course⟩
    · simp [none]
    · exact fun w mem => ⟨(course.last (proper.ready found).named).2 w mem, course.changes w mem⟩
  rw [List.forall_mem_append] at one
  obtain ⟨identified, there, taken⟩ := taken_of_runs proper.identified there first.runs_script
    (fun w mem => (one.1 w mem).1) (fun w mem => (one.1 w mem).2)
  obtain ⟨rfl, identified, cancelled⟩ := cancelled_of_there identified there calledOff
  obtain ⟨-, -, taken'⟩ := taken_of_runs identified (by simp [cancelled]) rest
    (fun w mem => (one.2 w mem).1) (fun w mem => (one.2 w mem).2)
  have last := (statuses_of_runs MemoryStore.follows identified rest
    fun w mem => (one.2 w mem).1).1
  rw [cancelled] at last
  refine ⟨rfl, report, rfl, ?_⟩
  rw [MemoryStore.isIn_iff, MemoryStore.isIn_iff, last]
  rcases writes with ⟨none, message⟩ | ⟨message, receipts, confirms, course⟩
  · obtain ⟨-, none⟩ := List.append_eq_nil_iff.mp none
    simp [none, message]
  obtain ⟨earlier, w, split, closing, halfway⟩ := course.split_last
  have other : report.message ≠ "Order is not valid" := by
    rw [message]
    cases report.success <;> simp [attemptMessage]
  obtain ⟨none, closed⟩ | ⟨after, notClosed⟩ :=
    statusAfter_calledOff split closing halfway taken taken'
  · simp [none, closed]
  · rw [after]
    refine ⟨⟨fun stays => ?_, fun closed => ?_⟩, fun _ => rfl⟩
    · rcases ended_cases report.success with ended | ended <;> simp [ended] at stays
    · exact absurd closed (not_or.mpr ⟨other, notClosed⟩)

/-- At a desk at which every call works an order can be called off after any number of calls. -/
theorem exists_interrupted (now : Timestamp) (settings : OrderSettings) (id : String)
    (reason : Value) (n : Nat) (s : MemoryStore) :
    let left := walk (MemoryStore.desk now) (n + 1) (process now settings (.text id)) s
    let off := (cancel now settings (.text id) reason).run (MemoryStore.desk now) left.2
    let result := left.1.run (MemoryStore.desk now) off.2
    ∃ ms ns ks, Interrupted now now settings id reason s ms ns ks off.1 result.1 result.2 ∧
      events ms =
        ((process now settings (.text id)).trace (MemoryStore.desk now) s).take (n + 1) := by
  intro left off result
  have le {s e u} (h : Environment.of (MemoryStore.desk now) s e u) : Undisturbed now s e u :=
    (healthy_desk h).undisturbed
  obtain ⟨ms, first, same⟩ :=
    reaches_walk (MemoryStore.desk now) (n + 1) (process now settings (.text id)) s
  obtain ⟨ns, calledOff, -⟩ :=
    runs_run (MemoryStore.desk now) (cancel now settings (.text id) reason) left.2
  obtain ⟨ks, rest, -⟩ := runs_run (MemoryStore.desk now) left.1 off.2
  have loaded : ms ≠ [] := by
    rintro rfl
    cases same
  exact ⟨ms, ns, ks, .intro loaded (first.mono fun _ _ _ => le) (calledOff.mono fun _ _ _ => le)
    (rest.mono fun _ _ _ => le), same⟩

/-- An order stays called off if this is done just before the customer is told of its completion. -/
theorem stays_cancelled_iff_sample :
    let s := MemoryStore.sample 10 2
    s.Proper ∧ s.IsIn "order-1" .pending ∧ ∃ ms ns ks report v,
      Interrupted default default {} "order-1" .null s ms ns ks true (.ok report) v ∧
      (∃ w ∈ statusWrites (events ms), w.status = .completed ∨ w.status = .pending) ∧
      v.IsIn "order-1" .cancelled := by
  intro s
  have proper := MemoryStore.proper_sample 10 2
  have pending : s.IsIn "order-1" .pending := ⟨_, rfl, rfl⟩
  obtain ⟨ms, ns, ks, interrupted, before⟩ :=
    exists_interrupted default {} "order-1" .null 10 s
  have closed : (statusWrites (events ms)).any (·.status = .completed) = true := by
    rw [before]
    decide +kernel
  obtain ⟨w, mem, completed⟩ := List.any_eq_true.mp closed
  obtain ⟨succeeds, report, same, stays, -⟩ := stays_cancelled_iff proper pending interrupted
  rw [succeeds, same] at interrupted
  have ended : w.status = .completed ∨ w.status = .pending := .inl (by simpa using completed)
  exact ⟨proper, pending, ms, ns, ks, report, _, interrupted, ⟨w, mem, ended⟩,
    stays.mpr (.inr ⟨w, mem, ended⟩)⟩

/-- An order does not stay called off if this is done just before it is marked as completed. -/
theorem cancelled_then_completed_sample :
    let s := MemoryStore.sample 10 2
    s.Proper ∧ s.IsIn "order-1" .pending ∧ ∃ ms ns ks a v,
      Interrupted default default {} "order-1" .null s ms ns ks true a v ∧
      v.IsIn "order-1" .completed ∧ ¬ v.IsIn "order-1" .cancelled := by
  intro s
  obtain ⟨ms, ns, ks, interrupted, -⟩ := exists_interrupted default {} "order-1" .null 9 s
  have succeeds : ((cancel default {} (.text "order-1") .null).run (MemoryStore.desk default)
      (walk (MemoryStore.desk default) 10 (process default {} (.text "order-1")) s).2).1 =
        true := by
    decide +kernel
  rw [succeeds] at interrupted
  refine ⟨MemoryStore.proper_sample 10 2, ⟨_, rfl, rfl⟩, ms, ns, ks, _, _, interrupted, ?_⟩
  rw [MemoryStore.isIn_iff, MemoryStore.isIn_iff]
  decide +kernel

end Memory

end Fulfilment
