import Fulfilment.Proofs.Diary
import Fulfilment.Proofs.Stores

/-!
# The life of an order

An order that is called off stays so, and one that is completed stays so until it is called off. An
order is left half-way, validated or being processed, only by an attempt whose last write, the one
that makes it pending again, has failed. This holds at any store whose statuses follow the writes
that it takes, whatever fails on the way; both stores are of this kind.

## Main definitions

* `Follows` - whether the statuses in a store follow the writes that it takes
* `statusAfter` - a status after some writes
* `Status.IsHalfway` - whether an order was left on the way
* `attempts` - the writes of a status for an order
* `Stranded` - whether the last attempt at an order ended half-way

## Main results

* `Processing.WriteCourse.last` - how an attempt ends
* `statuses_of_runs`, `statuses_process`, `statuses_cancel` - the statuses after a run
* `cancelled_of_pieces`, `completed_of_pieces`, `halfway_of_pieces` - the statuses after a diary
* `Rehearsal.Store.follows` - the statuses in both stores follow the writes
* `lifecycle_diary` - the life of an order
-/

namespace Fulfilment

open Program Processing

/-! ### Statuses that follow the writes -/

/-- Whether the statuses in a store follow the writes that it takes, at a desk and in states that
are in order. -/
structure Follows {σ : Type} (env : Timestamp → DeskEnvironment σ) (good : σ → Prop)
    (status? : σ → String → Option Status) : Prop where
  /-- The store stays in order. -/
  kept : ∀ {now s e u}, good s → env now s e u → good u
  /-- An order that is loaded bears the identifier that was asked for, and is in the status that the
  store has for it. -/
  loaded : ∀ {now s u id o}, good s → env now s (looked (.text id) (.ok (.entry o))) u →
    o.id = .text id ∧ status? s id = some o.status
  /-- The orders that are listed are texts. -/
  listed : ∀ {now s u status limit w}, good s →
    env now s ⟨.store (.withStatus status limit), .ok w⟩ u →
      ∃ ids : List String, w = .list (ids.map .text)
  /-- A write that is taken sets the status of the one order. -/
  accepted : ∀ {now s u id status changes reply}, good s →
    env now s (wrote (.text id) status changes reply) u → taken reply = true →
      ∀ other, status? u other = if other = id then some status else status? s other
  /-- A write that is not taken sets none. -/
  refused : ∀ {now s u id status changes reply}, good s →
    env now s (wrote id status changes reply) u → taken reply = false →
      ∀ other, status? u other = status? s other
  /-- Nothing else sets one. -/
  aside : ∀ {now s e u}, good s → env now s e u → statusWrite? e = none →
    ∀ other, status? u other = status? s other

/-- A status after some writes: that of the last one that was taken. -/
def statusAfter (before : Option Status) (ws : List StatusWrite) : Option Status :=
  ws.foldl (fun st w => if w.taken then some w.status else st) before

@[simp] theorem statusAfter_nil (before : Option Status) : statusAfter before [] = before := rfl

@[simp] theorem statusAfter_cons (before : Option Status) (w : StatusWrite)
    (ws : List StatusWrite) :
    statusAfter before (w :: ws) = statusAfter (if w.taken then some w.status else before) ws := rfl

theorem statusAfter_of_last {before : Option Status} {ws : List StatusWrite} {w : StatusWrite}
    (last : ws.getLast? = some w) (took : w.taken = true) :
    statusAfter before ws = some w.status := by
  obtain ⟨earlier, rfl⟩ := List.getLast?_eq_some_iff.mp last
  simp [statusAfter, took]

/-- Whether an order was left on the way. -/
def Status.IsHalfway (s : Status) : Prop := s = .validated ∨ s = .processing

/-- Whether a write is one for an order. -/
def StatusWrite.concerns (id : String) (w : StatusWrite) : Bool :=
  match w.id with
  | .text key => key = id
  | _ => false

/-- The writes of a status for an order that some events attempt. -/
def attempts (id : String) (es : List DeskEvent) : List StatusWrite :=
  (statusWrites es).filter (·.concerns id)

variable {σ : Type} {env : Timestamp → DeskEnvironment σ} {good : σ → Prop}
  {status? : σ → String → Option Status} {settings : OrderSettings} {now : Timestamp}
  {s u v : σ} {ms : List (DeskMoment σ)} {ps : List (Piece σ)} {id : String}

theorem statusWrite?_eq_some {e : DeskEvent} {w : StatusWrite} (h : statusWrite? e = some w) :
    ∃ reply, e = wrote w.id w.status w.changes reply ∧ w.taken = taken reply := by
  unfold statusWrite? at h
  split at h
  · cases h
    exact ⟨_, rfl, rfl⟩
  · cases h

/-- Where all writes of a run are for one order, its status after the run is that after the writes,
and the others are what they were. -/
theorem statuses_of_runs {α : Type} {p : DeskProgram α} {a : α} (follows : Follows env good status?)
    (before : good s) (h : Runs (env now) p s ms a v)
    (one : ∀ w ∈ statusWrites (events ms), w.id = .text id) :
    status? v id = statusAfter (status? s id) (statusWrites (events ms)) ∧
      ∀ other, other ≠ id → status? v other = status? s other := by
  induction h with
  | done a s => exact ⟨rfl, fun _ _ => rfl⟩
  | @call c next s u v r ms a answered rest ih =>
    rw [events_cons, statusWrites_cons] at one ⊢
    obtain ⟨here, others⟩ := ih (follows.kept before answered) fun w mem =>
      one w (List.mem_append_right _ mem)
    rw [here]
    cases write : statusWrite? ⟨c, r⟩ with
    | none =>
      have still := follows.aside before answered write
      exact ⟨by simp [still], fun other ne => (others other ne).trans (still other)⟩
    | some w =>
      obtain ⟨reply, same, took⟩ := statusWrite?_eq_some write
      have named : w.id = .text id := one w (by simp [write])
      rw [same, named] at answered
      cases accepted : taken reply with
      | true =>
        have set := follows.accepted before answered accepted
        refine ⟨by simp [set, took, accepted], fun other ne => (others other ne).trans ?_⟩
        rw [set other, if_neg ne]
      | false =>
        have still := follows.refused before answered accepted
        refine ⟨by simp [still, took, accepted], fun other ne => ?_⟩
        exact (others other ne).trans (still other)

/-! ### One order -/

/-- An attempt ends with making the order pending again, or with completing it, and writes no status
of another order. -/
theorem Processing.WriteCourse.last {o : Order} {key : Value} {ws : List StatusWrite}
    {receipts : List (Option String)} {confirms : List (Value × Option String)} {success : Bool}
    (h : WriteCourse now o key ws receipts confirms success) (named : o.id = key) :
    (ws.getLast? = some (completedWrite o true) ∨
      ∃ undone, ws.getLast? = some (pendingWrite key undone)) ∧ ∀ w ∈ ws, w.id = key := by
  have ledger (took : Bool) : ∀ w ∈ ledgerWrites o took, w.id = o.id := by
    intro w mem
    unfold ledgerWrites at mem
    split at mem
    · cases mem
    · cases List.mem_singleton.mp mem
      rfl
  subst named
  cases h with
  | unvalidated undone =>
    exact ⟨.inr ⟨undone, rfl⟩, by simp [validatedWrite, pendingWrite]⟩
  | unmarked undone =>
    exact ⟨.inr ⟨undone, rfl⟩, by simp [validatedWrite, processingWrite, pendingWrite]⟩
  | unprinted undone =>
    exact ⟨.inr ⟨undone, rfl⟩, by simp [validatedWrite, processingWrite, pendingWrite]⟩
  | uncompleted receipt took undone =>
    refine ⟨.inr ⟨undone, by rw [List.getLast?_append]; rfl⟩, fun w mem => ?_⟩
    simp only [List.mem_append, List.mem_cons, List.not_mem_nil, or_false] at mem
    rcases mem with ((rfl | rfl) | mem) | rfl | rfl
    · rfl
    · rfl
    · exact ledger took w mem
    · rfl
    · rfl
  | completed receipt took =>
    refine ⟨.inl (by rw [List.getLast?_append]; rfl), fun w mem => ?_⟩
    simp only [List.mem_append, List.mem_cons, List.not_mem_nil, or_false] at mem
    rcases mem with ((rfl | rfl) | mem) | rfl
    · rfl
    · rfl
    · exact ledger took w mem
    · rfl

/-- What the processing of an order does to the statuses in a store. Either no status is written. Or
the order was open, all writes are for it, and the last one makes it pending again or has completed
it. -/
theorem statuses_process {report : Except Failure Report} (follows : Follows env good status?)
    (before : good s) (h : Runs (env now) (process now settings (.text id)) s ms report v) :
    (∀ w ∈ statusWrites (events ms), w.id = .text id) ∧
      (statusWrites (events ms) = [] ∨
        (∃ st, status? s id = some st ∧ st.IsOpen) ∧
          ∃ w, (statusWrites (events ms)).getLast? = some w ∧
            ((w.status = .completed ∧ w.taken = true) ∨ w.status = .pending)) := by
  cases course_of_runs h with
  | unread loaded => exact ⟨by simp [statusWrite?], .inl rfl⟩
  | missing loaded => exact ⟨by simp [statusWrite?], .inl rfl⟩
  | unreadable loaded => exact ⟨by simp [statusWrite?], .inl rfl⟩
  | closed loaded closed => exact ⟨by simp [statusWrite?], .inl rfl⟩
  | unfit loaded _ reviewed unfit =>
    obtain ⟨silent, -, -⟩ := writes_read (reviewed.asked (asks_review settings _))
    exact ⟨by simp [statusWrite?, silent], .inl (by simp [statusWrite?, silent])⟩
  | attempted loaded isOpen reviewed fit attempt =>
    obtain ⟨silent, -, -⟩ := writes_read (reviewed.asked (asks_review settings _))
    obtain ⟨named, status⟩ := follows.loaded before loaded
    obtain ⟨last, one⟩ := (writes_attempt attempt).last named
    simp only [events_cons, events_append, statusWrites_cons, statusWrites_append, silent,
      statusWrite?, Option.toList_none, List.nil_append]
    refine ⟨one, .inr ⟨⟨_, status, isOpen⟩, ?_⟩⟩
    rcases last with last | ⟨undone, last⟩
    · exact ⟨_, last, .inl ⟨rfl, rfl⟩⟩
    · exact ⟨_, last, .inr rfl⟩

/-- The calling off of an order sets its status if the store takes it, and nothing else. -/
theorem statuses_cancel {reason : Value} {success : Bool} (follows : Follows env good status?)
    (before : good s) (h : Runs (env now) (cancel now settings (.text id) reason) s ms success v)
    (other : String) :
    status? v other = if success = true ∧ other = id then some .cancelled else status? s other := by
  cases callingOff_of_runs h with
  | refused calledOff refused => simp [follows.refused before calledOff refused other]
  | told calledOff accepted told =>
    rw [follows.aside (follows.kept before calledOff) told rfl,
      follows.accepted before calledOff accepted]
    simp

/-! ### A whole diary -/

/-- What the processing of an order leaves of the status of any order: it is what it was and nothing
was attempted for it, or the order was open and is pending or completed now, or it was open and the
attempt ended with a failure to make it pending again. -/
theorem status_of_processed {key : String} {report : Except Failure Report}
    (follows : Follows env good status?) (before : good s)
    (h : Runs (env now) (process now settings (.text key)) s ms report v) (id : String) :
    (status? v id = status? s id ∧ attempts id (events ms) = []) ∨
      (∃ st, status? s id = some st ∧ st.IsOpen) ∧
        (status? v id = some .pending ∨ status? v id = some .completed ∨
          ∃ w, (attempts id (events ms)).getLast? = some w ∧ w.status = .pending ∧
            w.taken = false) := by
  obtain ⟨one, ended⟩ := statuses_process follows before h
  obtain ⟨here, others⟩ := statuses_of_runs follows before h one
  by_cases same : id = key
  case neg =>
    refine .inl ⟨others id same, List.filter_eq_nil_iff.mpr fun w mem => ?_⟩
    simp [StatusWrite.concerns, one w mem, Ne.symm same]
  subst same
  have all : attempts id (events ms) = statusWrites (events ms) :=
    List.filter_eq_self.mpr fun w mem => by simp [StatusWrite.concerns, one w mem]
  rw [here, all]
  rcases ended with none | ⟨isOpen, w, last, ⟨completed, took⟩ | pending⟩
  · exact .inl (by simp [none])
  · exact .inr ⟨isOpen, .inr (.inl (by rw [statusAfter_of_last last took, completed]))⟩
  · refine .inr ⟨isOpen, ?_⟩
    cases took : w.taken with
    | true => exact .inl (by rw [statusAfter_of_last last took, pending])
    | false => exact .inr (.inr ⟨w, last, pending, took⟩)

/-- Asking for the orders of a batch and passing the time set no status. -/
theorem status_of_idle {e : DeskEvent} (follows : Follows env good status?) (before : good s)
    (idle : e.1.IsIdle) (answered : env now s e u) (id : String) :
    status? u id = status? s id := by
  refine follows.aside before answered ?_ id
  obtain ⟨(_ | _) | _ | _ | _ | _, r⟩ := e <;> first | rfl | cases idle

/-- A diary at such a desk can be read in pieces, and leaves the store in order. -/
theorem Follows.reading {es : List (Entry σ)} (follows : Follows env good status?) (before : good s)
    (h : Diary env settings s es v) :
    good v ∧ ∃ ps, Reading env settings s es ps v ∧
      ∀ id ns success, .calledOff id ns success ∈ ps →
        ∃ e ∈ es, (∃ reason, e.operation = .cancel id reason) ∧ e.result = .calledOff success := by
  constructor
  · induction h with
    | blank s => exact before
    | entered work _ ih => exact ih (work.keeps (fun _ _ _ => follows.kept) before)
  · refine reading_of_diary ?_ ?_ before h
    · exact follows.kept
    · exact follows.listed

/-- An order that is called off stays so. -/
theorem cancelled_of_pieces (follows : Follows env good status?) (before : good s)
    (h : Pieces env settings s ps v) (cancelled : status? s id = some .cancelled) :
    status? v id = some .cancelled := by
  induction h with
  | nil s => exact cancelled
  | processed work rest ih =>
    refine ih (work.keeps (fun _ _ _ => follows.kept) before) ?_
    rcases status_of_processed follows before work id with ⟨same, -⟩ | ⟨⟨st, found, isOpen⟩, -⟩
    · rw [same, cancelled]
    · rw [cancelled] at found
      cases found
      exact absurd rfl isOpen.1
  | calledOff work rest ih =>
    refine ih (work.keeps (fun _ _ _ => follows.kept) before) ?_
    rw [statuses_cancel follows before work, cancelled]
    split <;> rfl
  | idle idle answered rest ih =>
    refine ih (follows.kept before answered) ?_
    rw [status_of_idle follows before idle answered, cancelled]

/-- An order that is completed stays so, unless it is called off. -/
theorem completed_of_pieces (follows : Follows env good status?) (before : good s)
    (h : Pieces env settings s ps v) (completed : status? s id = some .completed) :
    status? v id = some .completed ∨ ∃ ns, .calledOff id ns true ∈ ps := by
  induction h with
  | nil s => exact .inl completed
  | @processed now key ms report ps s u v work rest ih =>
    have still : status? u id = some .completed := by
      rcases status_of_processed follows before work id with ⟨same, -⟩ | ⟨⟨st, found, isOpen⟩, -⟩
      · exact same.trans completed
      · rw [completed] at found
        cases found
        exact absurd rfl isOpen.2
    refine (ih (work.keeps (fun _ _ _ => follows.kept) before) still).imp_right ?_
    exact fun ⟨ns, mem⟩ => ⟨ns, List.mem_cons_of_mem _ mem⟩
  | @calledOff now key reason ms success ps s u v work rest ih =>
    by_cases here : success = true ∧ id = key
    · obtain ⟨rfl, rfl⟩ := here
      exact .inr ⟨ms, List.mem_cons_self⟩
    · have still : status? u id = some .completed := by
        rw [statuses_cancel follows before work, if_neg here, completed]
      refine (ih (work.keeps (fun _ _ _ => follows.kept) before) still).imp_right ?_
      exact fun ⟨ns, mem⟩ => ⟨ns, List.mem_cons_of_mem _ mem⟩
  | idle idle answered rest ih =>
    have still := (status_of_idle follows before idle answered id).trans completed
    refine (ih (follows.kept before answered) still).imp_right ?_
    exact fun ⟨ns, mem⟩ => ⟨ns, List.mem_cons_of_mem _ mem⟩

/-- Whether the last processing in a row of pieces that attempted to write a status for an order
ended with an attempt to make it pending again that failed. -/
def Stranded (id : String) (ps : List (Piece σ)) : Prop :=
  ∃ earlier key ms later w, ps = earlier ++ .processed key ms :: later ∧
    (attempts id (events ms)).getLast? = some w ∧ w.status = .pending ∧ w.taken = false ∧
    ∀ key' ms', .processed key' ms' ∈ later → attempts id (events ms') = []

theorem Stranded.cons {p : Piece σ} (h : Stranded id ps) : Stranded id (p :: ps) := by
  obtain ⟨earlier, key, ms, later, w, rfl, rest⟩ := h
  exact ⟨p :: earlier, key, ms, later, w, rfl, rest⟩

/-- An order that is found half-way was so before and nothing was attempted for it since, or it is
stranded. -/
theorem halfway_of_pieces (follows : Follows env good status?) (before : good s)
    (h : Pieces env settings s ps v) {st : Status} (halfway : st.IsHalfway)
    (found : status? v id = some st) :
    (status? s id = some st ∧ ∀ key ms, .processed key ms ∈ ps → attempts id (events ms) = []) ∨
      Stranded id ps := by
  induction h with
  | nil s => exact .inl ⟨found, by simp⟩
  | @processed now key ms report ps s u v work rest ih =>
    rcases ih (work.keeps (fun _ _ _ => follows.kept) before) found with
      ⟨found', none⟩ | stranded
    case inr => exact .inr stranded.cons
    -- The order was half-way after this piece, so this piece left it so or stranded it.
    rcases status_of_processed follows before work id with
      ⟨same, none'⟩ | ⟨-, pending | completed | ⟨w, last, pending, refused⟩⟩
    · refine .inl ⟨same ▸ found', fun key' ms' mem => ?_⟩
      rcases List.mem_cons.mp mem with same | mem
      · cases same
        exact none'
      · exact none key' ms' mem
    · rw [pending] at found'
      cases found'
      rcases halfway with h | h <;> cases h
    · rw [completed] at found'
      cases found'
      rcases halfway with h | h <;> cases h
    · exact .inr ⟨[], key, ms, ps, w, rfl, last, pending, refused, none⟩
  | @calledOff now key reason ms success ps s u v work rest ih =>
    rcases ih (work.keeps (fun _ _ _ => follows.kept) before) found with
      ⟨found', none⟩ | stranded
    case inr => exact .inr stranded.cons
    rw [statuses_cancel follows before work] at found'
    split at found'
    · cases found'
      rcases halfway with h | h <;> cases h
    · exact .inl ⟨found', fun key' ms' mem => none key' ms' (by simpa using mem)⟩
  | idle idle answered rest ih =>
    rcases ih (follows.kept before answered) found with ⟨found', none⟩ | stranded
    case inr => exact .inr stranded.cons
    rw [status_of_idle follows before idle answered] at found'
    exact .inl ⟨found', fun key' ms' mem => none key' ms' (by simpa using mem)⟩

/-! ### The two stores -/

/-- The statuses in both stores follow the writes, whatever fails. -/
theorem Rehearsal.Store.follows : Follows Disturbed Identified Store.status? where
  kept identified answered := by
    rcases answered.eq_or_respond with rfl | ⟨c, -, rfl⟩
    · exact identified
    · exact identified.respond rfl
  loaded identified answered := by
    rcases answered with carried | ⟨⟨f, failed⟩, -⟩
    · exact status?_of_find identified carried
    · cases failed
  listed identified answered := by
    rcases answered with carried | ⟨⟨f, failed⟩, -⟩
    · exact text_of_withStatus identified carried
    · cases failed
  accepted _ answered accepted other := by
    rcases answered with carried | ⟨refused, -⟩
    · rw [status?_write carried]
      simp [accepted]
    · rw [Fails, accepted] at refused
      cases refused
  refused _ answered refused other := by
    rcases answered with carried | ⟨-, rfl⟩
    · rw [eq_of_refused carried refused]
    · rfl
  aside {now s e u} _ answered silent other := by
    obtain ⟨c | _ | _ | _ | _, r⟩ := e
    case store =>
      rcases answered with carried | ⟨-, rfl⟩
      · refine status?_respond carried (fun id status changes same => ?_) other
        subst same
        cases silent
      · rfl
    all_goals
      obtain rfl := answered
      rfl

/-- A desk at which no receipt can be printed, and no order can be made pending again. -/
def Rehearsal.Store.jammedDesk (now : Timestamp) : Responder DeskCall DeskCall.Reply Rehearsal.Store
  | .store (.write _ .pending _), s => (.ok (.bool false), s)
  | .store c, s => s.respond now c
  | .print _, s => (.error (.raised .value "No paper"), s)
  | .confirm .., s => (.ok true, s)
  | .tell .., s => (.ok true, s)
  | .pause _, s => ((), s)

theorem disturbed_jammedDesk {s u : Rehearsal.Store} {e : DeskEvent}
    (h : Environment.of (Rehearsal.Store.jammedDesk now) s e u) :
    Rehearsal.Store.Disturbed now s e u := by
  obtain ⟨c, r⟩ := e
  have replied : Rehearsal.Store.jammedDesk now c s = (r, u) := h
  unfold Rehearsal.Store.jammedDesk at replied
  split at replied
  · cases replied
    exact .inr ⟨rfl, rfl⟩
  · exact .inl replied
  all_goals
    cases replied
    rfl

/-- The life of an order at a store in which no order was left half-way at the beginning, whatever
fails. Between two stretches of a diary an order that is called off stays so; an order that is
completed stays so, unless it is called off with success. And however what was done is read in
pieces, an order that is found half-way is stranded. -/
theorem lifecycle_diary {s u v : Rehearsal.Store} {first rest : List (Entry Rehearsal.Store)}
    (identified : s.Identified)
    (settled : ∀ id st, s.status? id = some st → st = .pending ∨ st = .completed ∨ st = .cancelled)
    (h : Diary Rehearsal.Store.Disturbed settings s first u)
    (h' : Diary Rehearsal.Store.Disturbed settings u rest v) (id : String) :
    (u.status? id = some .cancelled → v.status? id = some .cancelled) ∧
      (u.status? id = some .completed → v.status? id = some .completed ∨
        ∃ e ∈ rest, (∃ reason, e.operation = .cancel id reason) ∧ e.result = .calledOff true) ∧
      (∃ ps, Reading Rehearsal.Store.Disturbed settings s first ps u) ∧
      ∀ ps, Reading Rehearsal.Store.Disturbed settings s first ps u →
        ∀ st, u.status? id = some st → st.IsHalfway → Stranded id ps := by
  have follows := Rehearsal.Store.follows
  obtain ⟨identified', ps, reading, -⟩ := follows.reading identified h
  obtain ⟨-, qs, reading', calledOff⟩ := follows.reading identified' h'
  refine ⟨cancelled_of_pieces follows identified' reading'.pieces, fun completed => ?_,
    ⟨ps, reading⟩, fun ps reading st found halfway => ?_⟩
  · refine (completed_of_pieces follows identified' reading'.pieces completed).imp_right ?_
    exact fun ⟨ns, mem⟩ => calledOff id ns true mem
  · rcases halfway_of_pieces follows identified reading.pieces halfway found with
      ⟨found', -⟩ | stranded
    -- At the beginning the order was not half-way.
    · rcases settled id st found' with rfl | rfl | rfl <;> rcases halfway with h | h <;> cases h
    · exact stranded

/-- An order is left half-way when its receipt is not printed and it is not made pending again. -/
theorem lifecycle_diary_sample :
    let s := Rehearsal.Store.memory (.sample 5 3)
    s.Identified ∧
      (∀ id st, s.status? id = some st → st = .pending ∨ st = .completed ∨ st = .cancelled) ∧
      ∃ first u, Diary Rehearsal.Store.Disturbed {} s first u ∧
        Diary Rehearsal.Store.Disturbed {} u [] u ∧ u.status? "order-1" = some .processing ∧
        ∃ ps, Reading Rehearsal.Store.Disturbed {} s first ps u ∧ Stranded "order-1" ps := by
  intro s
  have identified : s.Identified := by
    intro e mem
    cases List.mem_singleton.mp mem
    exact ⟨"order-1", rfl, rfl⟩
  have settled (id : String) (st : Status) (found : s.status? id = some st) :
      st = .pending ∨ st = .completed ∨ st = .cancelled := by
    obtain ⟨o, there, rfl⟩ := Option.map_eq_some_iff.mp found
    cases List.mem_singleton.mp (Catalog.get?_eq_some_of_mem there)
    exact .inl rfl
  obtain ⟨ms, run, -⟩ := runs_run (Rehearsal.Store.jammedDesk default)
    ((Operation.process "order-1").work default {}) s
  have diary : Diary Rehearsal.Store.Disturbed {} s [⟨default, .process "order-1", ms, _⟩] _ :=
    .entered (run.mono fun _ _ _ => disturbed_jammedDesk) (.blank _)
  have found : (((Operation.process "order-1").work default {}).run
      (Rehearsal.Store.jammedDesk default) s).2.status? "order-1" = some .processing := by
    decide +kernel
  obtain ⟨-, -, ⟨ps, reading⟩, stranded⟩ :=
    lifecycle_diary identified settled diary (.blank _) "order-1"
  exact ⟨identified, settled, _, _, diary, .blank _, found, ps, reading,
    stranded ps reading _ found (.inr rfl)⟩

end Fulfilment
