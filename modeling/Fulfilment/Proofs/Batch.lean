import Fulfilment.Proofs.Calls
import Fulfilment.Proofs.Replay
import Fulfilment.Proofs.Stores
import Mathlib.Data.List.Forall2
import Mathlib.Data.List.Nodup

/-!
# Batches

The orders of a batch do not get in each other's way. A batch is at the mercy of the listing alone:
if the listing fails, nothing is done, and otherwise each order that is listed, up to the limit, is
processed in turn and has its report, whatever has become of the orders before it. Two orders are
separated by one pause, and no pause is made elsewhere.

Over a store in memory that carries out every call, the orders of a batch are the first ones that
are pending, in the order in which they were entered. Each of them ends as its report says, and all
other orders are left alone.

## Main definitions

* `Typed` - the desks that answer with what they were asked for
* `Batched` - the processing of some orders, with a report on each
* `MemoryStore.waiting` - the pending orders

## Main results

* `orderId_process` - a report is about the order that was processed
* `batched_of_runs`, `Batched.orderIds`, `Batched.pauses` - each order has its turn
* `batched_undisturbed` - what becomes of the orders of a batch
* `batch_isolated` - a whole batch
-/

namespace Fulfilment

open Program Processing

/-- Whether a desk answers with what it was asked for, as long as it is in order: an order where one
is looked for, and a list of texts for the orders in a status. Any call may fail. -/
structure Typed {σ : Type} (env : DeskEnvironment σ) (good : σ → Prop) : Prop where
  kept : ∀ {s e u}, good s → env s e u → good u
  found : ∀ {s id w u}, good s → ¬ env s (looked (.text id) (.ok (.other w))) u
  listed : ∀ {s status limit w u}, good s →
    env s ⟨.store (.withStatus status limit), .ok w⟩ u →
      ∃ ids : List String, w = .list (ids.map .text)

/-- The event that the pending orders of a batch are asked for. -/
abbrev asked (settings : OrderSettings) (reply : Except Failure Value) : DeskEvent :=
  ⟨.store (.withStatus .pending (.int settings.batchLimit)), reply⟩

/-- The event that time passes between two orders. -/
abbrev paused (settings : OrderSettings) : DeskEvent := ⟨.pause settings.pause, ()⟩

/-- The seconds of an event that passes the time. -/
def pause? : DeskEvent → Option Binary64
  | ⟨.pause seconds, _⟩ => some seconds
  | _ => none

/-- The pauses among some events, in order. -/
def pauses (es : List DeskEvent) : List Binary64 := es.filterMap pause?

/-- The processing of some orders in turn, with a report on each and a pause between two of them. -/
inductive Batched {σ : Type} (env : DeskEnvironment σ) (now : Timestamp)
    (settings : OrderSettings) :
    List String → σ → List (DeskMoment σ) → List Report → σ → Prop where
  | none (s : σ) : Batched env now settings [] s [] [] s
  | last {id : String} {s v : σ} {ms : List (DeskMoment σ)} {report : Report}
      (work : Runs env (process now settings (.text id)) s ms (.ok report) v) :
      Batched env now settings [id] s ms [report] v
  | next {id id' : String} {ids : List String} {s t u v : σ} {ms ns : List (DeskMoment σ)}
      {report : Report} {reports : List Report}
      (work : Runs env (process now settings (.text id)) s ms (.ok report) t)
      (pause : env t (paused settings) u)
      (rest : Batched env now settings (id' :: ids) u ns reports v) :
      Batched env now settings (id :: id' :: ids) s (ms ++ (paused settings, u) :: ns)
        (report :: reports) v

variable {σ : Type} {env : DeskEnvironment σ} {good : σ → Prop} {now : Timestamp}
  {settings : OrderSettings} {o : Order} {ids : List String} {s t u v : σ}
  {ms : List (DeskMoment σ)} {reports : List Report}

/-! ### Reports -/

theorem orderId_complete {id : Value} {warnings : List String} {report : Report}
    (h : Runs env (complete now o id warnings) s ms report v) : report.orderId = id.plain := by
  obtain ⟨_, ⟨r, f⟩, _, _, -, last, -⟩ := runs_bind_iff.mp h
  cases f with
  | none =>
    obtain ⟨-, rfl, -⟩ := runs_done_iff.mp last
    rfl
  | some f =>
    obtain ⟨_, -, rfl⟩ := runs_map_iff.mp last
    rfl

theorem orderId_processLoaded {id : Value} {report : Report}
    (h : Runs env (processLoaded now settings o id) s ms report v) : report.orderId = id.plain := by
  unfold processLoaded at h
  split at h
  · obtain ⟨-, rfl, -⟩ := runs_done_iff.mp h
    rfl
  split at h
  · obtain ⟨-, rfl, -⟩ := runs_done_iff.mp h
    rfl
  obtain ⟨_, review, _, _, -, last, -⟩ := runs_bind_iff.mp h
  split at last
  · exact orderId_complete last
  · obtain ⟨-, rfl, -⟩ := runs_done_iff.mp last
    rfl

/-- A report is about the order that was processed. -/
theorem orderId_process {id : String} {report : Report}
    (h : Runs env (process now settings (.text id)) s ms (.ok report) v) :
    report.orderId = id := by
  obtain ⟨reply, u, ns, -, rest, -⟩ := runs_call_iff.mp h
  rcases reply with f | (_ | o | w)
  case ok.entry =>
    obtain ⟨report', loaded, same⟩ := runs_map_iff.mp rest
    cases same
    exact orderId_processLoaded loaded
  all_goals
    obtain ⟨-, same, -⟩ := runs_done_iff.mp rest
    cases same
  · rfl
  · rfl

/-- Where orders are found or nothing, processing an order results in a report. -/
theorem Typed.reported {id : String} {a : Except Failure Report} (typed : Typed env good)
    (before : good s) (h : Runs env (process now settings (.text id)) s ms a v) :
    ∃ report, a = .ok report := by
  cases course_of_runs h with
  | unreadable loaded => exact absurd loaded (typed.found before)
  | _ => exact ⟨_, rfl⟩

/-! ### Each order in turn -/

/-- Processing orders one after the other gives each of them its turn. -/
theorem batched_of_runs {a : Except Failure (List Report)} (typed : Typed env good)
    (before : good s) (h : Runs env (processEach now settings (ids.map .text)) s ms a v) :
    ∃ reports, a = .ok reports ∧ Batched env now settings ids s ms reports v := by
  induction ids generalizing s ms a with
  | nil =>
    obtain ⟨rfl, rfl, rfl⟩ := runs_done_iff.mp h
    exact ⟨[], rfl, .none v⟩
  | cons id ids ih =>
    obtain ⟨ms₁, result, t, ms₂, work, second, rfl⟩ := runs_bind_iff.mp h
    obtain ⟨report, rfl⟩ := typed.reported before work
    have between : good t := work.keeps (fun _ _ _ => typed.kept) before
    obtain ⟨ms₂, _, u, ms₃, pause, others, rfl⟩ := runs_bind_iff.mp second
    obtain ⟨b, following, rfl⟩ := runs_map_iff.mp others
    -- There is a pause where another order follows.
    cases ids with
    | nil =>
      obtain ⟨rfl, -, rfl⟩ := runs_done_iff.mp pause
      obtain ⟨rfl, rfl, rfl⟩ := runs_done_iff.mp following
      refine ⟨[report], rfl, ?_⟩
      rw [List.append_nil, List.append_nil]
      exact .last work
    | cons id' ids =>
      obtain ⟨_, w, ns, answered, done, rfl⟩ := runs_call_iff.mp pause
      obtain ⟨rfl, -, rfl⟩ := runs_done_iff.mp done
      obtain ⟨reports, rfl, rest⟩ := ih (typed.kept between answered) following
      exact ⟨report :: reports, rfl, .next work answered rest⟩

/-- There is a report on each order. -/
theorem Batched.orderIds (h : Batched env now settings ids s ms reports v) :
    reports.map (·.orderId) = ids := by
  induction h with
  | none s => rfl
  | last work => rw [List.map_singleton, orderId_process work]
  | next work _ _ ih => rw [List.map_cons, orderId_process work, ih]

theorem pauses_process {id : Value} {a : Except Failure Report}
    (h : Runs env (process now settings id) s ms a v) : pauses (events ms) = [] := by
  apply List.filterMap_eq_nil_iff.mpr
  intro e mem
  have unpaused := h.asked (asks_process now settings id) e mem
  obtain ⟨_ | _ | _ | _ | _, r⟩ := e
  case pause => exact absurd trivial unpaused
  all_goals rfl

/-- There is one pause between two orders, and none besides. -/
theorem Batched.pauses (h : Batched env now settings ids s ms reports v) :
    pauses (events ms) = List.replicate (ids.length - 1) settings.pause := by
  induction h with
  | none s => rfl
  | last work => exact pauses_process work
  | @next id id' ids _ _ _ _ ms ns _ _ work _ _ ih =>
    have silent := pauses_process work
    unfold Fulfilment.pauses at silent ih ⊢
    rw [events_append, List.filterMap_append, silent, events_cons, List.nil_append,
      List.filterMap_cons, ih]
    rfl

/-! ### Over a store in memory -/

namespace MemoryStore

variable {s : MemoryStore}

/-- The identifiers of the pending orders, in the order in which these were entered. -/
def waiting (s : MemoryStore) : List Value :=
  (s.orders.entries.filter (·.status = .pending)).map (·.id)

/-- Whether an order is in a status. -/
def IsIn (s : MemoryStore) (id : String) (status : Status) : Prop :=
  ∃ o, s.order? id = some o ∧ o.status = status

theorem Proper.identified (proper : s.Proper) : s.Identified := by
  rintro ⟨key, o⟩ mem
  exact proper.named (Catalog.get?_of_mem proper.names mem)

/-- What waits is pending. -/
theorem Proper.isIn_of_waiting (proper : s.Proper) {id : String} (waits : .text id ∈ s.waiting) :
    s.IsIn id .pending := by
  obtain ⟨o, among, same⟩ := List.mem_map.mp waits
  obtain ⟨entered, pending⟩ := List.mem_filter.mp among
  obtain ⟨⟨key, o⟩, mem, rfl⟩ := List.mem_map.mp entered
  obtain ⟨id', rfl, named⟩ := proper.identified _ mem
  rw [named] at same
  cases same
  exact ⟨o, Catalog.get?_of_mem proper.names mem, by simpa using pending⟩

/-- No order waits twice. -/
theorem Proper.nodup_waiting (proper : s.Proper) : s.waiting.Nodup := by
  -- The orders bear the names under which they are entered, and these are distinct.
  have names : (s.orders.entries.map (·.id)).map Value.identity = s.orders.names.map .ok := by
    unfold Catalog.entries Catalog.names
    rw [List.map_map, List.map_map, List.map_map]
    apply List.map_congr_left
    intro e mem
    obtain ⟨id, named, same⟩ := proper.identified e mem
    simp [named, same]
  have distinct : ((s.orders.entries.map (·.id)).map Value.identity).Nodup := by
    rw [names]
    exact proper.names.map fun _ _ => Except.ok.inj
  exact (List.Nodup.of_map _ distinct).sublist (List.filter_sublist.map _)

end MemoryStore

/-- A store in memory answers with what it is asked for. -/
theorem typed_undisturbed (now : Timestamp) :
    Typed (Undisturbed now) MemoryStore.Identified where
  kept {s e u} identified answered := by
    obtain ⟨c | _ | _ | _ | _, r⟩ := e
    case store =>
      exact Rehearsal.Store.Identified.respond (s := .memory s) identified
        (Rehearsal.Store.respond_memory.mpr ⟨u, rfl, answered⟩)
    all_goals
      obtain rfl : u = s := answered
      exact identified
  found {s id w u} _ answered := by
    have replied : (Except.ok (Found.ofOption (s.order? id)), s) = (.ok (.other w), u) := answered
    cases found : s.order? id <;> rw [found] at replied <;> cases replied
  listed {s _ _ _ u} identified answered :=
    Rehearsal.Store.text_of_withStatus (s := .memory s) identified
      (Rehearsal.Store.respond_memory.mpr ⟨u, rfl, answered⟩)

section Memory

variable {s t u v : MemoryStore} {id : String} {ms : List (DeskMoment MemoryStore)}

/-- The status in which an attempt leaves its order. -/
def ended (success : Bool) : Status := if success then .completed else .pending

/-- An attempt leaves its order completed or pending, and all other orders alone. -/
theorem attempt_ended {success : Bool} (nodup : s.orders.names.Nodup) (ready : s.Ready id o)
    (h : Attempt (Undisturbed now) now o (.text id) s ms success v) :
    v.IsIn id (ended success) ∧ ∀ key, key ≠ .text id → v.orders.get? key = s.orders.get? key := by
  cases h with
  | passed passage =>
    obtain ⟨-, fails⟩ | ⟨recorded, -⟩ := passage_undisturbed nodup ready passage
    · cases fails
    · obtain ⟨_, o', found, -, completed, -⟩ := recorded.completed
      exact ⟨⟨o', found, completed⟩, recorded.others⟩
  | @undone u _ _ r passage undo =>
    obtain ⟨steady, -⟩ | ⟨-, succeeds⟩ := passage_undisturbed nodup ready passage
    case inr => cases succeeds
    have whole := (steady.rel (.refl id) .trans).1
    -- The order is still there, so the store takes the write that makes it pending.
    have there : (u.order? id).isSome := by
      rw [MemoryStore.order?, Catalog.get?_isSome_iff, whole.names, ← Catalog.get?_isSome_iff]
      exact Option.isSome_iff_exists.mpr ⟨o, ready.found⟩
    obtain ⟨o', found⟩ := Option.isSome_iff_exists.mp there
    have last := steady_marked undo
    obtain ⟨-, rfl⟩ := undo.wrote (by simp) found
    refine ⟨⟨_, MemoryStore.order?_advance, MemoryStore.status_written ..⟩, fun key ne => ?_⟩
    exact (last.others key ne).trans (whole.others key ne)

/-- Processing a pending order leaves it as the report says, and all other orders alone. -/
theorem process_ended {report : Report} (proper : s.Proper) (pending : s.IsIn id .pending)
    (h : Runs (Undisturbed now) (process now settings (.text id)) s ms (.ok report) v) :
    v.IsIn id (ended report.success) ∧
      ∀ key, key ≠ .text id → v.orders.get? key = s.orders.get? key := by
  obtain ⟨o, found, status⟩ := pending
  have isOpen : o.status.IsOpen := by simp [Status.IsOpen, status]
  obtain ⟨report', same, ⟨-, fails, -, rfl⟩ | ⟨-, -, ms₁, ns, -, -, rfl, attempt⟩⟩ :=
    course_of_ready (fun _ _ _ _ answered => answered) found isOpen h
  all_goals cases same
  · rw [fails]
    exact ⟨⟨o, found, status⟩, fun _ _ => rfl⟩
  · exact attempt_ended proper.names (proper.ready found) attempt

/-- The orders of a batch end as their reports say, and all other orders are left alone. -/
theorem batched_undisturbed (proper : s.Proper) (nodup : ids.Nodup)
    (pending : ∀ id ∈ ids, s.IsIn id .pending)
    (h : Batched (Undisturbed now) now settings ids s ms reports v) :
    List.Forall₂ (fun id report => v.IsIn id (ended report.success)) ids reports ∧
      ∀ key, (∀ id ∈ ids, key ≠ .text id) → v.orders.get? key = s.orders.get? key := by
  induction h with
  | none s => exact ⟨.nil, fun _ _ => rfl⟩
  | last work =>
    obtain ⟨mine, others⟩ := process_ended proper (pending _ (by simp)) work
    exact ⟨.cons mine .nil, fun key ne => others key (ne _ (by simp))⟩
  | @next id id' ids s t u v _ _ report reports work pause rest ih =>
    obtain ⟨mine, others⟩ := process_ended proper (pending id (by simp)) work
    have later := Later.of_along (later_process proper (work.mono fun _ _ _ => .inl))
    obtain rfl : u = t := pause
    obtain ⟨new, nodup⟩ := List.nodup_cons.mp nodup
    -- The orders to come have not been touched, and what they do does not touch this one.
    have apart (name : String) (mem : name ∈ id' :: ids) :
        Name.Identity.text name ≠ .text id := by
      rintro same
      cases same
      exact new mem
    obtain ⟨theirs, others'⟩ := ih (later.proper proper) nodup fun name mem => by
      obtain ⟨o, found, status⟩ := pending name (List.mem_cons_of_mem id mem)
      exact ⟨o, (others _ (apart name mem)).trans found, status⟩
    refine ⟨.cons ?_ theirs, fun key ne => ?_⟩
    · obtain ⟨o, found, status⟩ := mine
      exact ⟨o, (others' _ fun name mem => (apart name mem).symm).trans found, status⟩
    · rw [others' key fun name mem => ne name (List.mem_cons_of_mem id mem),
        others key (ne id (by simp))]

end Memory

/-! ### A whole batch -/

/-- The store lists the first orders that are pending. -/
theorem Undisturbed.asked {s u : MemoryStore} {reply : Except Failure Value}
    (h : Undisturbed now s (Fulfilment.asked settings reply) u) :
    u = s ∧ reply = .ok (.list (s.waiting.take settings.batchLimit)) := by
  have replied : ((s.withStatus .pending (.int settings.batchLimit)).map Value.list, s) =
      (reply, u) := h
  rw [MemoryStore.withStatus, MemoryStore.limited, firstOf_natCast] at replied
  obtain ⟨listed, same⟩ := Prod.mk.inj replied
  exact ⟨same.symm, listed.symm⟩

/-- A batch ends at once where the listing fails, and otherwise takes the listed orders in turn. -/
theorem batched_of_batch {a : Except Failure (List Report)} (typed : Typed env good)
    (before : good s) (h : Runs env (batch now settings) s ms a v) :
    (∃ f, env s (asked settings (.error f)) v ∧ ms = [(asked settings (.error f), v)] ∧
        a = .ok []) ∨
      ∃ (ids : List String) (u : σ) (ns : List (DeskMoment σ)) (reports : List Report),
        env s (asked settings (.ok (.list (ids.map .text)))) u ∧
        ms = (asked settings (.ok (.list (ids.map .text))), u) :: ns ∧ a = .ok reports ∧
        Batched env now settings (ids.take settings.batchLimit) u ns reports v := by
  obtain ⟨reply, u, ns, answered, rest, rfl⟩ := runs_call_iff.mp h
  cases reply with
  | error f =>
    obtain ⟨rfl, rfl, rfl⟩ := runs_done_iff.mp rest
    exact .inl ⟨f, answered, rfl, rfl⟩
  | ok w =>
    obtain ⟨ids, rfl⟩ := typed.listed before answered
    have work : Runs env
        (processEach now settings ((ids.map .text).take settings.batchLimit)) u ns a v := rest
    rw [← List.map_take] at work
    obtain ⟨reports, rfl, turns⟩ := batched_of_runs typed (typed.kept before answered) work
    exact .inr ⟨ids, u, ns, reports, answered, rfl, rfl, turns⟩

/-- A batch has a result whatever fails. The result is empty where the listing fails; otherwise it
has one report on each of the orders that are listed, up to the limit, and these are processed in
turn with one pause between two of them. Over a store in memory that carries out every call, the
orders of the batch are the first ones that are pending, up to the limit; each is completed if its
report says so and still pending if not, and the other orders are as they were. -/
theorem batch_isolated (now : Timestamp) (settings : OrderSettings) :
    (∀ {σ : Type} {env : DeskEnvironment σ} {good : σ → Prop} {s v : σ} {ms : List (DeskMoment σ)}
        {a : Except Failure (List Report)},
      Typed env good → good s → Runs env (batch now settings) s ms a v →
        (∃ f, ms = [(asked settings (.error f), v)] ∧ a = .ok []) ∨
          ∃ (ids : List String) (u : σ) (ns : List (DeskMoment σ)) (reports : List Report),
            ms = (asked settings (.ok (.list (ids.map .text))), u) :: ns ∧ a = .ok reports ∧
            Batched env now settings (ids.take settings.batchLimit) u ns reports v ∧
            reports.map (·.orderId) = ids.take settings.batchLimit ∧
            pauses (events ms) = List.replicate (reports.length - 1) settings.pause) ∧
    (∀ {s v : MemoryStore} {ms : List (DeskMoment MemoryStore)}
        {a : Except Failure (List Report)},
      s.Proper → Runs (Undisturbed now) (batch now settings) s ms a v →
        ∃ (ids : List String) (reports : List Report), a = .ok reports ∧
          ids.map .text = s.waiting.take settings.batchLimit ∧ reports.map (·.orderId) = ids ∧
          List.Forall₂ (fun id report => v.IsIn id (ended report.success)) ids reports ∧
          ∀ key, (∀ id ∈ ids, key ≠ .text id) → v.orders.get? key = s.orders.get? key) := by
  constructor
  · intro σ env good s v ms a typed before h
    refine (batched_of_batch typed before h).imp (fun ⟨f, _, whole⟩ => ⟨f, whole⟩) ?_
    rintro ⟨ids, u, ns, reports, -, rfl, rfl, turns⟩
    have named := turns.orderIds
    refine ⟨ids, u, ns, reports, rfl, rfl, turns, named, ?_⟩
    have count : reports.length = (ids.take settings.batchLimit).length := by
      rw [← named, List.length_map]
    rw [count, ← turns.pauses]
    rfl
  · intro s v ms a proper h
    obtain ⟨f, answered, -⟩ | ⟨ids, u, ns, reports, answered, -, rfl, turns⟩ :=
      batched_of_batch (typed_undisturbed now) proper.identified h
    · cases answered.asked.2
    obtain ⟨rfl, same⟩ := answered.asked
    have listed : ids.map .text = u.waiting.take settings.batchLimit := by
      simpa using same
    have attempted : (ids.take settings.batchLimit).map .text =
        u.waiting.take settings.batchLimit := by
      rw [List.map_take, listed, List.take_take, Nat.min_self]
    have waits (id : String) (mem : id ∈ ids.take settings.batchLimit) : u.IsIn id .pending := by
      apply proper.isIn_of_waiting
      have among : Value.text id ∈ u.waiting.take settings.batchLimit :=
        attempted ▸ List.mem_map_of_mem mem
      exact List.mem_of_mem_take among
    have distinct : (ids.take settings.batchLimit).Nodup := by
      refine List.Nodup.of_map Value.text ?_
      rw [attempted]
      exact proper.nodup_waiting.sublist (List.take_sublist ..)
    obtain ⟨mine, others⟩ := batched_undisturbed proper distinct waits turns
    exact ⟨_, reports, rfl, attempted, turns.orderIds, mine, others⟩

/-- A store in which some orders are pending, each for two of ten pieces. -/
def MemoryStore.queue (ids : List String) : MemoryStore :=
  { sample 10 2 with
    orders := (sample 10 2).orders.flatMap fun e =>
      ids.map fun id => (.text id, { e.2 with id := .text id }) }

theorem MemoryStore.proper_queue {ids : List String} (nodup : ids.Nodup) :
    (queue ids).Proper := by
  have sampled (key : Name.Identity) (o : Order) (found : (queue ids).orders.get? key = some o) :
      ∃ id, key = .text id ∧ o.id = .text id ∧
        ∃ e ∈ (sample 10 2).orders, o.lines = e.2.lines := by
    obtain ⟨e, sampled, mem⟩ := List.mem_flatMap.mp (Catalog.get?_eq_some_of_mem found)
    obtain ⟨id, -, same⟩ := List.mem_map.mp mem
    cases same
    exact ⟨id, rfl, rfl, e, sampled, rfl⟩
  constructor
  · have names : (queue ids).orders.names = ids.map .text := by
      simp [queue, sample, Catalog.names, List.flatMap_cons]
    rw [names]
    exact nodup.map fun _ _ same => by cases same; rfl
  · intro key o found
    obtain ⟨id, named, same, -⟩ := sampled key o found
    exact ⟨id, named, same⟩
  · intro key o found l mem
    obtain ⟨id, -, -, e, entry, lines⟩ := sampled key o found
    rw [lines] at mem
    have found := Catalog.get?_of_mem (proper_sample 10 2).names entry
    exact (proper_sample 10 2).counted found l mem
  · exact (proper_sample 10 2).stocked

/-- A desk with a store in memory at which the receipt of one order cannot be printed. -/
def MemoryStore.tornDesk (id : String) (now : Timestamp) :
    Responder DeskCall DeskCall.Reply MemoryStore
  | .print other, s =>
    if other.plain = id then (.error (.raised .value "No paper"), s) else (.ok "Receipt", s)
  | c, s => desk now c s

theorem undisturbed_tornDesk {s u : MemoryStore} {id : String} {e : DeskEvent}
    (h : Environment.of (MemoryStore.tornDesk id now) s e u) : Undisturbed now s e u := by
  obtain ⟨c | other | _ | _ | _, r⟩ := e
  case print =>
    have replied : MemoryStore.tornDesk id now (.print other) s = (r, u) := h
    unfold MemoryStore.tornDesk at replied
    dsimp only at replied
    split at replied <;> cases replied <;> rfl
  case store => exact h
  all_goals
    cases h
    rfl

/-- Of three orders two are taken. The receipt of the first cannot be printed, and the second is
completed. -/
theorem batch_isolated_sample :
    let s := MemoryStore.queue ["order-1", "order-2", "order-3"]
    let settings : OrderSettings := { batchLimit := 2 }
    Typed (Undisturbed default) MemoryStore.Identified ∧ s.Proper ∧
      ∃ (ms : List (DeskMoment MemoryStore)) (reports : List Report) (v : MemoryStore),
        Runs (Undisturbed default) (batch default settings) s ms (.ok reports) v ∧
        reports.map (fun r => (r.orderId, r.success)) = [("order-1", false), ("order-2", true)] ∧
        pauses (events ms) = [settings.pause] ∧
        v.IsIn "order-1" .pending ∧ v.IsIn "order-2" .completed ∧ v.IsIn "order-3" .pending := by
  intro s settings
  have proper : s.Proper := MemoryStore.proper_queue (by decide)
  have typed := typed_undisturbed default
  obtain ⟨ms, run, -⟩ :=
    runs_run (MemoryStore.tornDesk "order-1" default) (batch default settings) s
  have results : (((batch default settings).run (MemoryStore.tornDesk "order-1" default)
      s).1.toOption.map fun reports => reports.map fun r => (r.orderId, r.success)) =
        some [("order-1", false), ("order-2", true)] := by
    decide +kernel
  have run := run.mono fun _ _ _ => undisturbed_tornDesk
  generalize (batch default settings).run (MemoryStore.tornDesk "order-1" default) s = result
    at run results
  obtain ⟨a, v⟩ := result
  obtain ⟨ids, reports, rfl, attempted, named, mine, others⟩ :=
    (batch_isolated default settings).2 proper run
  have listed : reports.map (fun r => (r.orderId, r.success)) =
      [("order-1", false), ("order-2", true)] := Option.some.inj results
  obtain ⟨r, rs, rfl, first, rest⟩ := List.map_eq_cons_iff.mp listed
  obtain ⟨r', rs, rfl, second, rest⟩ := List.map_eq_cons_iff.mp rest
  obtain rfl := List.map_eq_nil_iff.mp rest
  simp only [Prod.mk.injEq] at first second
  simp only [List.map_cons, List.map_nil, first, second] at named
  subst named
  simp only [List.forall₂_cons, first, second] at mine
  have waits : s.IsIn "order-3" .pending := ⟨_, rfl, rfl⟩
  refine ⟨typed, proper, ms, _, v, run, listed, ?_, mine.1, mine.2.1, ?_⟩
  · obtain ⟨f, -, none⟩ | ⟨_, _, _, _, -, same, -, -, paused⟩ :=
      (batch_isolated default settings).1 typed proper.identified run
    · cases none
    · cases same
      exact paused
  · obtain ⟨o, found, status⟩ := waits
    exact ⟨o, (others _ (by decide)).trans found, status⟩

end Fulfilment
