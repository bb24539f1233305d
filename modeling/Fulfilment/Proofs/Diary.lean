import Fulfilment.Proofs.Session
import Fulfilment.Proofs.StatusWrites

/-!
# Diaries

A diary tells what was done at a desk, operation by operation, with the time, the moments and the
result of each. It can be read in smaller pieces: the processing of one order, the calling off of
one, and the events in between that concern no order. A batch is a row of such pieces.

## Main definitions

* `Operation.work`, `OperationResult` - what an operation does, and what it comes to
* `Entry`, `Diary` - an entry, and the diaries at a desk
* `Piece`, `Pieces` - the pieces of a diary
* `Reading` - a diary read in pieces

## Main results

* `reading_of_diary` - every diary can be read in pieces, where the orders of a batch are texts
-/

namespace Fulfilment

open Program Processing

/-- What an operation comes to. -/
inductive OperationResult where
  /-- An order was processed, with a report. -/
  | processed (report : Except Failure Report)
  /-- An order was called off, if the store took it. -/
  | calledOff (success : Bool)
  /-- A batch was processed, with its reports. -/
  | batched (reports : Except Failure (List Report))

/-- What an operation does, with what it comes to. -/
def Operation.work (now : Timestamp) (settings : OrderSettings) :
    Operation → DeskProgram OperationResult
  | process id => (Processing.process now settings (.text id)).map .processed
  | cancel id reason => (Processing.cancel now settings (.text id) reason).map .calledOff
  | batch => (Processing.batch now settings).map .batched

/-- An operation that was done, with the time, its moments, and what it came to. -/
structure Entry (σ : Type) where
  now : Timestamp
  operation : Operation
  moments : List (DeskMoment σ)
  result : OperationResult

/-- The diaries at a desk, from the state at the beginning to the state at the end. -/
inductive Diary {σ : Type} (env : Timestamp → DeskEnvironment σ) (settings : OrderSettings) :
    σ → List (Entry σ) → σ → Prop where
  /-- Nothing is done any more. -/
  | blank (s : σ) : Diary env settings s [] s
  /-- An operation is done, and others follow. -/
  | entered {e : Entry σ} {es : List (Entry σ)} {s u v : σ}
      (work : Runs (env e.now) (e.operation.work e.now settings) s e.moments e.result u)
      (rest : Diary env settings u es v) : Diary env settings s (e :: es) v

/-- A piece of a diary. -/
inductive Piece (σ : Type) where
  /-- The order of an identifier was processed, on its own or in a batch. -/
  | processed (id : String) (ms : List (DeskMoment σ))
  /-- The order of an identifier was called off, if the store took it. -/
  | calledOff (id : String) (ms : List (DeskMoment σ)) (success : Bool)
  /-- The orders of a batch were asked for, or the time passed between two of them. -/
  | idle (m : DeskMoment σ)

/-- The moments of a piece. -/
def Piece.moments {σ : Type} : Piece σ → List (DeskMoment σ)
  | processed _ ms => ms
  | calledOff _ ms _ => ms
  | idle m => [m]

/-- The pieces that may follow one another at a desk. -/
inductive Pieces {σ : Type} (env : Timestamp → DeskEnvironment σ) (settings : OrderSettings) :
    σ → List (Piece σ) → σ → Prop where
  /-- There is no further piece. -/
  | nil (s : σ) : Pieces env settings s [] s
  /-- An order is processed. -/
  | processed {now : Timestamp} {id : String} {ms : List (DeskMoment σ)}
      {report : Except Failure Report} {ps : List (Piece σ)} {s u v : σ}
      (work : Runs (env now) (process now settings (.text id)) s ms report u)
      (rest : Pieces env settings u ps v) : Pieces env settings s (.processed id ms :: ps) v
  /-- An order is called off. -/
  | calledOff {now : Timestamp} {id : String} {reason : Value} {ms : List (DeskMoment σ)}
      {success : Bool} {ps : List (Piece σ)} {s u v : σ}
      (work : Runs (env now) (cancel now settings (.text id) reason) s ms success u)
      (rest : Pieces env settings u ps v) :
      Pieces env settings s (.calledOff id ms success :: ps) v
  /-- Nothing is done to an order. -/
  | idle {now : Timestamp} {e : DeskEvent} {ps : List (Piece σ)} {s u v : σ}
      (idle : e.1.IsIdle) (answered : env now s e u) (rest : Pieces env settings u ps v) :
      Pieces env settings s (.idle (e, u) :: ps) v

/-- A diary read in pieces, which are made of the same moments. -/
structure Reading {σ : Type} (env : Timestamp → DeskEnvironment σ) (settings : OrderSettings)
    (s : σ) (es : List (Entry σ)) (ps : List (Piece σ)) (v : σ) : Prop where
  pieces : Pieces env settings s ps v
  moments : ps.flatMap Piece.moments = es.flatMap Entry.moments

variable {σ : Type} {env : Timestamp → DeskEnvironment σ} {settings : OrderSettings}
  {now : Timestamp} {s u v : σ} {ms : List (DeskMoment σ)} {ps qs : List (Piece σ)}
  {es : List (Entry σ)}

theorem Pieces.append (h : Pieces env settings s ps u) (h' : Pieces env settings u qs v) :
    Pieces env settings s (ps ++ qs) v := by
  induction h with
  | nil s => exact h'
  | processed work _ ih => exact .processed work (ih h')
  | calledOff work _ ih => exact .calledOff work (ih h')
  | idle idle answered _ ih => exact .idle idle answered (ih h')

/-- Processing orders one after the other is a row of pieces in which no order is called off. -/
theorem pieces_of_processEach {ids : List String} {a : Except Failure (List Report)}
    (h : Runs (env now) (processEach now settings (ids.map .text)) s ms a v) :
    ∃ ps, Pieces env settings s ps v ∧ ps.flatMap Piece.moments = ms ∧
      ∀ id ns success, .calledOff id ns success ∉ ps := by
  induction ids generalizing s ms a with
  | nil =>
    obtain ⟨rfl, rfl, rfl⟩ := runs_done_iff.mp h
    exact ⟨[], .nil v, rfl, by simp⟩
  | cons id ids ih =>
    obtain ⟨ms₁, result, u, ms₂, first, second, rfl⟩ := runs_bind_iff.mp h
    -- A failure ends the batch. After a report there is a pause, unless this was the last order.
    cases result with
    | error f =>
      obtain ⟨rfl, -, rfl⟩ := runs_done_iff.mp second
      exact ⟨[.processed id ms₁], .processed first (.nil v), by simp [Piece.moments], by simp⟩
    | ok report =>
      obtain ⟨ms₂, _, t, ms₃, pause, others, rfl⟩ := runs_bind_iff.mp second
      obtain ⟨b, others, -⟩ := runs_map_iff.mp others
      obtain ⟨ps, pieces, rfl, none⟩ := ih others
      cases ids with
      | nil =>
        obtain ⟨rfl, -, rfl⟩ := runs_done_iff.mp pause
        exact ⟨.processed id ms₁ :: ps, .processed first pieces, rfl, by simp [none]⟩
      | cons id' ids =>
        obtain ⟨r, w, ns, answered, last, rfl⟩ := runs_call_iff.mp pause
        obtain ⟨rfl, -, rfl⟩ := runs_done_iff.mp last
        exact ⟨.processed id ms₁ :: .idle _ :: ps,
          .processed first (.idle (by trivial) answered pieces), rfl, by simp [none]⟩

/-- A batch is such a row, where the orders that are listed are texts. -/
theorem pieces_of_batch {a : Except Failure (List Report)}
    (listed : ∀ {status limit w t}, env now s ⟨.store (.withStatus status limit), .ok w⟩ t →
      ∃ ids : List String, w = .list (ids.map .text))
    (h : Runs (env now) (batch now settings) s ms a v) :
    ∃ ps, Pieces env settings s ps v ∧ ps.flatMap Piece.moments = ms ∧
      ∀ id ns success, .calledOff id ns success ∉ ps := by
  obtain ⟨reply, t, ns, answered, rest, rfl⟩ := runs_call_iff.mp h
  cases reply with
  | error f =>
    obtain ⟨rfl, -, rfl⟩ := runs_done_iff.mp rest
    exact ⟨[.idle _], .idle (by trivial) answered (.nil v), rfl, by simp⟩
  | ok w =>
    obtain ⟨ids, rfl⟩ := listed answered
    have work : Runs (env now)
        (processEach now settings ((ids.map .text).take settings.batchLimit)) t ns a v := rest
    rw [← List.map_take] at work
    obtain ⟨ps, pieces, rfl, none⟩ := pieces_of_processEach work
    exact ⟨.idle _ :: ps, .idle (by trivial) answered pieces, rfl, by simp [none]⟩

/-- An operation is a row of pieces. An order is called off in it only by the operation that does
so, and with its result. -/
theorem pieces_of_operation {op : Operation} {result : OperationResult}
    (listed : ∀ {status limit w t}, env now s ⟨.store (.withStatus status limit), .ok w⟩ t →
      ∃ ids : List String, w = .list (ids.map .text))
    (h : Runs (env now) (op.work now settings) s ms result v) :
    ∃ ps, Pieces env settings s ps v ∧ ps.flatMap Piece.moments = ms ∧
      ∀ id ns success, .calledOff id ns success ∈ ps →
        (∃ reason, op = .cancel id reason) ∧ result = .calledOff success := by
  cases op with
  | process id =>
    obtain ⟨report, work, rfl⟩ := runs_map_iff.mp h
    exact ⟨[.processed id ms], .processed work (.nil v), by simp [Piece.moments], by simp⟩
  | cancel id reason =>
    obtain ⟨success, work, rfl⟩ := runs_map_iff.mp h
    refine ⟨[.calledOff id ms success], .calledOff work (.nil v), by simp [Piece.moments], ?_⟩
    rintro id' ns success' mem
    cases List.mem_singleton.mp mem
    exact ⟨⟨reason, rfl⟩, rfl⟩
  | batch =>
    obtain ⟨reports, work, rfl⟩ := runs_map_iff.mp h
    obtain ⟨ps, pieces, same, none⟩ := pieces_of_batch listed work
    exact ⟨ps, pieces, same, fun id ns success mem => absurd mem (none id ns success)⟩

/-- Every diary can be read in pieces, where a store that is in order stays so and lists texts. -/
theorem reading_of_diary {good : σ → Prop}
    (kept : ∀ {now s e u}, good s → env now s e u → good u)
    (listed : ∀ {now s status limit w t}, good s →
      env now s ⟨.store (.withStatus status limit), .ok w⟩ t →
        ∃ ids : List String, w = .list (ids.map .text))
    (before : good s) (h : Diary env settings s es v) :
    ∃ ps, Reading env settings s es ps v ∧ ∀ id ns success, .calledOff id ns success ∈ ps →
      ∃ e ∈ es, (∃ reason, e.operation = .cancel id reason) ∧ e.result = .calledOff success := by
  induction h with
  | blank s => exact ⟨[], ⟨.nil s, rfl⟩, by simp⟩
  | @entered e es s u v work rest ih =>
    obtain ⟨ps, pieces, same, calledOff⟩ := pieces_of_operation (listed before) work
    obtain ⟨qs, ⟨others, same'⟩, calledOff'⟩ :=
      ih (work.keeps (fun _ _ _ good => kept good) before)
    refine ⟨ps ++ qs, ⟨pieces.append others, ?_⟩, fun id ns success mem => ?_⟩
    · rw [List.flatMap_append, List.flatMap_cons, same, same']
    · rcases List.mem_append.mp mem with mem | mem
      · exact ⟨e, List.mem_cons_self, calledOff id ns success mem⟩
      · obtain ⟨e', mem, found⟩ := calledOff' id ns success mem
        exact ⟨e', List.mem_cons_of_mem e mem, found⟩

end Fulfilment
