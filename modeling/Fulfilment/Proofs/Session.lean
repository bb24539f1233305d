import Fulfilment.Proofs.Later

/-!
# Sessions

A session is a row of operations on one store: orders are processed, one at a time or in batches,
and called off. What holds of the processing and the calling off of single orders, and goes over
from one stretch of a session to the next, holds of a whole session.

## Main definitions

* `Operation` - the operations
* `Session` - a row of operations, with the moments of each
* `Compositional` - what goes over from one stretch to the next

## Main results

* `operation_induction`, `session_induction` - from single orders to operations and sessions
* `later_session` - every step of a session leads later
* `exists_session` - there is a session for every row of operations
-/

namespace Fulfilment

open Program Processing

/-- An operation on orders. Trying an order again is processing it once more. -/
inductive Operation where
  /-- An order is processed. -/
  | process (id : String)
  /-- An order is called off. -/
  | cancel (id : String) (reason : Value)
  /-- The pending orders are processed. -/
  | batch

/-- What an operation does. -/
def Operation.program (now : Timestamp) (settings : OrderSettings) : Operation → DeskProgram Unit
  | process id => (Processing.process now settings (.text id)).map fun _ => ()
  | cancel id reason => (Processing.cancel now settings (.text id) reason).map fun _ => ()
  | batch => (Processing.batch now settings).map fun _ => ()

/-- The sessions at a desk: the store at the beginning, the operations with the time of each, the
moments of each operation, and the store at the end. -/
inductive Session (env : Timestamp → DeskEnvironment MemoryStore) (settings : OrderSettings) :
    MemoryStore → List (Timestamp × Operation) → List (List (DeskMoment MemoryStore)) →
      MemoryStore → Prop where
  /-- Nothing is done any more. -/
  | done (s : MemoryStore) : Session env settings s [] [] s
  /-- An operation is done, and others follow. -/
  | next {now : Timestamp} {op : Operation} {s u v : MemoryStore}
      {ms : List (DeskMoment MemoryStore)} {calls : List (Timestamp × Operation)}
      {mss : List (List (DeskMoment MemoryStore))}
      (work : Runs (env now) (op.program now settings) s ms () u)
      (rest : Session env settings u calls mss v) :
      Session env settings s ((now, op) :: calls) (ms :: mss) v

/-- Whether a call only asks for the orders of a batch, or passes the time between two of them. -/
def DeskCall.IsIdle : DeskCall → Prop
  | .store (.withStatus ..) | .pause _ => True
  | _ => False

/-- What holds of stretches of a session, whatever the single orders do: it holds where nothing is
done, and of two stretches in a row if it holds of both. -/
structure Compositional (P : MemoryStore → List (DeskMoment MemoryStore) → MemoryStore → Prop) :
    Prop where
  /-- Nothing is done. -/
  nil : ∀ s, P s [] s
  /-- Nothing is done to an order. -/
  idle : ∀ s e, e.1.IsIdle → P s [(e, s)] s
  /-- One stretch follows another. -/
  append : ∀ {s u v ms ns}, P s ms u → P u ns v → P s (ms ++ ns) v

variable {env : Timestamp → DeskEnvironment MemoryStore} {settings : OrderSettings}
  {now : Timestamp} {s u v : MemoryStore} {ms : List (DeskMoment MemoryStore)}
  {mss : List (List (DeskMoment MemoryStore))} {calls : List (Timestamp × Operation)}
  {P : MemoryStore → List (DeskMoment MemoryStore) → MemoryStore → Prop}

theorem Disturbed.idle {e : DeskEvent} (h : Disturbed now s e u) (idle : e.1.IsIdle) : u = s := by
  rcases h with carried | ⟨-, rfl⟩
  · obtain ⟨(_ | _) | _ | _ | _ | _, r⟩ := e <;> try cases idle
    · exact (Prod.mk.inj carried).2.symm
    · exact carried
  · rfl

/-- The orders that are listed in a status are orders of the store. -/
theorem listed_text {status : Status} {n : Nat} {ids : List Value} (proper : s.Proper)
    (listed : s.withStatus status (.int n) = .ok ids) :
    ∃ keys : List String, ids = keys.map .text := by
  simp only [MemoryStore.withStatus, MemoryStore.limited, firstOf_natCast,
    Except.ok.injEq] at listed
  subst listed
  refine Value.exists_eq_map_text fun id mem => ?_
  obtain ⟨o, among, rfl⟩ := List.mem_map.mp (List.mem_of_mem_take mem)
  obtain ⟨⟨key, o⟩, entry, rfl⟩ := List.mem_map.mp (List.mem_filter.mp among).1
  obtain ⟨text, -, named⟩ := proper.named (Catalog.get?_of_mem proper.names entry)
  exact ⟨text, named⟩

/-- A batch asks for the pending orders and processes them. -/
theorem runs_batch {a : Except Failure (List Report)}
    (le : ∀ s e u, env now s e u → Disturbed now s e u) (proper : s.Proper)
    (h : Runs (env now) (batch now settings) s ms a v) :
    ∃ (e : DeskEvent) (ids : List String) (ns : List (DeskMoment MemoryStore))
      (b : Except Failure (List Report)), e.1.IsIdle ∧ ms = (e, s) :: ns ∧
        Runs (env now) (processEach now settings (ids.map .text)) s ns b v := by
  obtain ⟨reply, u, ns, answered, rest, rfl⟩ := runs_call_iff.mp h
  obtain rfl := (le _ _ _ answered).idle trivial
  cases reply with
  | error f =>
    obtain ⟨rfl, -, rfl⟩ := runs_done_iff.mp rest
    exact ⟨_, [], [], _, by trivial, rfl, .done _ _⟩
  | ok listed =>
    rcases le _ _ _ answered with carried | ⟨⟨f, failed⟩, -⟩
    case inr => cases failed
    have replied : (u.withStatus .pending (.int settings.batchLimit)).map Value.list = .ok listed :=
      (Prod.mk.inj carried).1
    cases found : u.withStatus .pending (.int settings.batchLimit) with
    | error f => rw [found] at replied; cases replied
    | ok ids =>
      rw [found] at replied
      cases replied
      obtain ⟨keys, rfl⟩ := listed_text proper found
      have work : Runs (env now)
          (processEach now settings ((keys.map .text).take settings.batchLimit)) u ns a v := rest
      rw [← List.map_take] at work
      exact ⟨_, _, _, _, by trivial, rfl, work⟩

/-! ### From single orders to operations and sessions -/

/-- What goes over from stretch to stretch and holds of the processing of single orders holds of
processing them one after the other. -/
theorem processEach_induction {ids : List String} {a : Except Failure (List Report)}
    (le : ∀ s e u, env now s e u → Disturbed now s e u) (whole : Compositional P)
    (each : ∀ {s id ms a v}, s.Proper →
      Runs (env now) (process now settings (.text id)) s ms a v → P s ms v)
    (proper : s.Proper) (h : Runs (env now) (processEach now settings (ids.map .text)) s ms a v) :
    P s ms v := by
  induction ids generalizing s ms a with
  | nil =>
    obtain ⟨rfl, rfl, rfl⟩ := runs_done_iff.mp h
    exact whole.nil v
  | cons id ids ih =>
    obtain ⟨ms₁, result, u, ms₂, first, second, rfl⟩ := runs_bind_iff.mp h
    have later := Later.of_along (later_process proper (first.mono le))
    -- A failure ends the batch. After a report there is a pause, unless this was the last order.
    refine whole.append (each proper first) ?_
    cases result with
    | error f =>
      obtain ⟨rfl, -, rfl⟩ := runs_done_iff.mp second
      exact whole.nil v
    | ok report =>
      obtain ⟨ms₁, _, t, ms₂, pause, others, rfl⟩ := runs_bind_iff.mp second
      obtain ⟨b, others, -⟩ := runs_map_iff.mp others
      cases ids with
      | nil =>
        obtain ⟨rfl, -, rfl⟩ := runs_done_iff.mp pause
        exact ih (later.proper proper) others
      | cons id' ids =>
        obtain ⟨_, w, ns, answered, last, rfl⟩ := runs_call_iff.mp pause
        obtain ⟨rfl, -, rfl⟩ := runs_done_iff.mp last
        obtain rfl := (le _ _ _ answered).idle trivial
        exact whole.append (whole.idle _ _ trivial) (ih (later.proper proper) others)

theorem batch_induction {a : Except Failure (List Report)}
    (le : ∀ s e u, env now s e u → Disturbed now s e u) (whole : Compositional P)
    (each : ∀ {s id ms a v}, s.Proper →
      Runs (env now) (process now settings (.text id)) s ms a v → P s ms v)
    (proper : s.Proper) (h : Runs (env now) (batch now settings) s ms a v) : P s ms v := by
  obtain ⟨e, ids, ns, b, idle, rfl, work⟩ := runs_batch le proper h
  exact whole.append (whole.idle s e idle) (processEach_induction le whole each proper work)

theorem operation_induction {op : Operation}
    (le : ∀ s e u, env now s e u → Disturbed now s e u) (whole : Compositional P)
    (each : ∀ {s id ms a v}, s.Proper →
      Runs (env now) (process now settings (.text id)) s ms a v → P s ms v)
    (calledOff : ∀ {s id reason ms a v}, s.Proper →
      Runs (env now) (cancel now settings (.text id) reason) s ms a v → P s ms v)
    (proper : s.Proper) (h : Runs (env now) (op.program now settings) s ms () v) : P s ms v := by
  cases op with
  | process id =>
    obtain ⟨a, work, -⟩ := runs_map_iff.mp h
    exact each proper work
  | cancel id reason =>
    obtain ⟨a, work, -⟩ := runs_map_iff.mp h
    exact calledOff proper work
  | batch =>
    obtain ⟨a, work, -⟩ := runs_map_iff.mp h
    exact batch_induction le whole each proper work

/-- What happens to a store step by step, as what holds of stretches of a session. -/
theorem compositional_along {R : MemoryStore → MemoryStore → Prop} (refl : ∀ s, R s s) :
    Compositional fun s ms v => Along R s (states ms) v where
  nil _ := rfl
  idle s _ _ := ⟨refl s, rfl⟩
  append first second := by
    rw [states_append]
    exact first.append second

theorem later_operation {op : Operation} (le : ∀ s e u, env now s e u → Disturbed now s e u)
    (proper : s.Proper) (h : Runs (env now) (op.program now settings) s ms () v) :
    Along Later s (states ms) v :=
  operation_induction le (compositional_along .refl)
    (fun proper run => later_process proper (run.mono le))
    (fun _ run => later_cancel (run.mono le)) proper h

/-- What goes over from stretch to stretch and holds of the processing and the calling off of single
orders holds of sessions. -/
theorem session_induction (le : ∀ now s e u, env now s e u → Disturbed now s e u)
    (whole : Compositional P)
    (each : ∀ {now s id ms a v}, s.Proper →
      Runs (env now) (process now settings (.text id)) s ms a v → P s ms v)
    (calledOff : ∀ {now s id reason ms a v}, s.Proper →
      Runs (env now) (cancel now settings (.text id) reason) s ms a v → P s ms v)
    (proper : s.Proper) (h : Session env settings s calls mss v) : P s mss.flatten v := by
  induction h with
  | done s => exact whole.nil s
  | next work _ ih =>
    have later := Later.of_along (later_operation (le _) proper work)
    exact whole.append (operation_induction (le _) whole each calledOff proper work)
      (ih (later.proper proper))

/-- Every step of a session leads later, whatever fails on the way. -/
theorem later_session (le : ∀ now s e u, env now s e u → Disturbed now s e u) (proper : s.Proper)
    (h : Session env settings s calls mss v) : Along Later s (states mss.flatten) v :=
  session_induction le (compositional_along .refl)
    (fun proper run => later_process proper (run.mono (le _)))
    (fun _ run => later_cancel (run.mono (le _))) proper h

theorem Session.single {op : Operation} {a : Unit}
    (work : Runs (env now) (op.program now settings) s ms a v) :
    Session env settings s [(now, op)] [ms] v :=
  .next work (.done v)

theorem Session.mono {env' : Timestamp → DeskEnvironment MemoryStore}
    (h : Session env settings s calls mss v) (le : ∀ now s e u, env now s e u → env' now s e u) :
    Session env' settings s calls mss v := by
  induction h with
  | done s => exact .done s
  | next work _ ih => exact .next (work.mono (le _)) ih

theorem Session.append {calls' : List (Timestamp × Operation)}
    {mss' : List (List (DeskMoment MemoryStore))} (h : Session env settings s calls mss u)
    (h' : Session env settings u calls' mss' v) :
    Session env settings s (calls ++ calls') (mss ++ mss') v := by
  induction h with
  | done s => exact h'
  | next work _ ih => exact .next work (ih h')

/-- Where every call can be answered, there is a session for every row of operations. -/
theorem exists_session (total : ∀ now s c, ∃ r u, env now s ⟨c, r⟩ u)
    (calls : List (Timestamp × Operation)) (s : MemoryStore) :
    ∃ mss v, Session env settings s calls mss v := by
  induction calls generalizing s with
  | nil => exact ⟨[], s, .done s⟩
  | cons call calls ih =>
    obtain ⟨ms, _, u, work⟩ := exists_runs (total call.1) (call.2.program call.1 settings) s
    obtain ⟨mss, v, rest⟩ := ih u
    exact ⟨ms :: mss, v, .next work rest⟩

end Fulfilment
