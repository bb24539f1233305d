import Fulfilment.Failure
import Fulfilment.Number.Binary64

/-!
# Timetables

Timers do their work again and again: a timer that is started begins a loop, which sleeps for the
interval of the timer, lets the timer work, and sleeps again. Time stands still while a timer works,
and it passes only when it is moved on. Then the loops that are due wake up one after the other: the
one with the earliest time first, and of those with the same time the one that went to sleep first.
A timer that fails in its work goes on. A timer that is stopped lets go of its loop, and a loop
without a timer never wakes up; a timer that is started again begins a new one.

The times may be of any kind that can be added and compared.

## Main definitions

* `Duration` - kinds of time
* `Timer` - a timer
* `Sleeper` - a loop that sleeps
* `Timetable` - some timers and the time, and `Timetable.new`, at the beginning
* `Timetable.pending` - the loops of a timer that sleep
* `Timetable.start`, `Timetable.stop` - starting and stopping a timer
* `Timetable.runOnce` - the work of a timer, at any time
* `Timetable.advance` - moving the time on

## Main results

* `Timetable.pending_sleep`, `Timetable.pending_awaken` - which loops sleep afterwards
* `Timetable.nextDue_eq_some`, `Timetable.nextDue_eq_none` - which loop is woken up next
* `Timetable.lap_fst` - what a timer does in its work is of no concern to the timetable
-/

namespace Fulfilment

/-- A kind of time, with a bound for the number of intervals that fit between two times. -/
class Duration (τ : Type) extends Add τ, LT τ, LE τ where
  /-- Comparison is decidable. -/
  decidableLT : DecidableLT τ
  /-- Comparison is decidable. -/
  decidableLE : DecidableLE τ
  /-- No more intervals than this fit between a time and a later one. -/
  laps : (start limit interval : τ) → Nat

/-- Times are compared by the comparison of their kind. -/
instance Duration.instDecidableLT (τ : Type) [d : Duration τ] : DecidableLT τ := d.decidableLT

/-- Times are compared by the comparison of their kind. -/
instance Duration.instDecidableLE (τ : Type) [d : Duration τ] : DecidableLE τ := d.decidableLE

/-- Whole seconds. -/
instance : Duration Nat where
  toAdd := inferInstance
  toLT := inferInstance
  toLE := inferInstance
  decidableLT := inferInstance
  decidableLE := inferInstance
  laps start limit interval := (limit - start) / interval + 1

/-- The laps of binary seconds. Rounding may shorten a lap by half of its length, but no further,
unless the interval is lost in the time altogether. -/
def Binary64.laps : Binary64 → Binary64 → Binary64 → Nat
  | .finite s u, .finite t v, .finite false w => 2 * ((signed t v - signed s u).toNat / w) + 2
  | _, _, _ => 0

/-- Seconds as binary numbers. -/
instance : Duration Binary64 where
  toAdd := inferInstance
  toLT := inferInstance
  toLE := inferInstance
  decidableLT := inferInstance
  decidableLE := inferInstance
  laps := Binary64.laps

/-- A timer. -/
structure Timer (τ : Type) where
  /-- What the timer is called. -/
  name : String
  /-- How long the timer sleeps. -/
  interval : τ
  /-- How often the timer has worked. -/
  runs : Nat := 0
  /-- The loop of the timer, if it was started. -/
  loop : Option Nat := none
deriving Repr, Inhabited

/-- Whether the timer was started. -/
def Timer.isRunning {τ : Type} (t : Timer τ) : Bool := t.loop.isSome

/-- A loop that sleeps. -/
structure Sleeper (τ : Type) where
  /-- The number of the loop. -/
  loop : Nat
  /-- The position of the timer for which the loop runs. -/
  timer : Nat
  /-- When the loop wakes up. -/
  wakes : τ
deriving Repr, Inhabited, DecidableEq

/-- Some timers and the time. -/
structure Timetable (τ : Type) where
  /-- The time. -/
  now : τ
  /-- The timers. -/
  timers : List (Timer τ)
  /-- The loops that sleep, in the order in which they went to sleep. -/
  sleepers : List (Sleeper τ) := []
  /-- How many loops have been started. -/
  loops : Nat := 0
  /-- How long each sleep was to last, in the order in which the loops went to sleep. -/
  sleeps : List τ := []
deriving Repr, Inhabited

namespace Timetable

variable {τ σ ρ : Type} {t : Timetable τ} {i j l n : Nat} {loop : Option Nat}

/-- Timers of some names and intervals, none of which has been started. -/
def new (now : τ) (timers : List (String × τ)) : Timetable τ where
  now := now
  timers := timers.map fun e => { name := e.1, interval := e.2 }

/-- The work of the timers, by their positions. -/
abbrev Work (σ ρ : Type) := Nat → σ → Except Failure ρ × σ

/-- How long a timer sleeps. -/
def interval? (t : Timetable τ) (i : Nat) : Option τ := (t.timers[i]?).map Timer.interval

/-- How often a timer has worked. -/
def runs? (t : Timetable τ) (i : Nat) : Option Nat := (t.timers[i]?).map Timer.runs

/-- The loop of a timer, if it was started. -/
def loop? (t : Timetable τ) (i : Nat) : Option Nat := ((t.timers[i]?).map Timer.loop).join

/-- The loops that sleep for a timer. -/
def pending (t : Timetable τ) (i : Nat) : List (Sleeper τ) := t.sleepers.filter (·.timer = i)

/-- Ends the sleep of a loop. -/
def awaken (t : Timetable τ) (loop : Nat) : Timetable τ :=
  { t with sleepers := t.sleepers.filter (·.loop ≠ loop) }

/-- Gives a timer another loop, or none. -/
def setLoop (t : Timetable τ) (i : Nat) (loop : Option Nat) : Timetable τ :=
  { t with timers := t.timers.modify i fun timer => { timer with loop := loop } }

/-- Stops a timer. Its loop is not woken up any more. -/
def stop (t : Timetable τ) (i : Nat) : Timetable τ :=
  match t.loop? i with
  | none => t
  | some loop => (t.setLoop i none).awaken loop

/-- Counts a run of a timer. -/
def count (t : Timetable τ) (i : Nat) : Timetable τ :=
  { t with timers := t.timers.modify i fun timer => { timer with runs := timer.runs + 1 } }

/-- Lets a timer work once. Its result is lost when it fails. -/
def runOnce (work : Work σ ρ) (i : Nat) (t : Timetable τ) (s : σ) : Option ρ × Timetable τ × σ :=
  let (result, s) := work i s
  (result.toOption, t.count i, s)

/-- A change of one entry of a list is not seen in what it leaves alone. -/
theorem map_modify {α β : Type} (f : α → α) (g : α → β) (as : List α) (i j : Nat)
    (keeps : ∀ a, g (f a) = g a) : ((as.modify i f)[j]?).map g = (as[j]?).map g := by
  rw [List.getElem?_modify]
  cases as[j]? with
  | none => rfl
  | some a => by_cases same : i = j <;> simp [same, keeps]

/-- A loop that is woken up does not sleep for any timer. -/
theorem pending_awaken : (t.awaken l).pending j = (t.pending j).filter (·.loop ≠ l) := by
  simp only [pending, awaken, List.filter_filter, Bool.and_comm]

@[simp] theorem interval?_awaken : (t.awaken l).interval? j = t.interval? j := rfl

@[simp] theorem runs?_awaken : (t.awaken l).runs? j = t.runs? j := rfl

@[simp] theorem loop?_awaken : (t.awaken l).loop? j = t.loop? j := rfl

@[simp] theorem pending_setLoop : (t.setLoop i loop).pending j = t.pending j := rfl

@[simp] theorem interval?_setLoop : (t.setLoop i loop).interval? j = t.interval? j :=
  map_modify _ _ t.timers i j fun _ => rfl

@[simp] theorem runs?_setLoop : (t.setLoop i loop).runs? j = t.runs? j :=
  map_modify _ _ t.timers i j fun _ => rfl

theorem loop?_setLoop : (t.setLoop i loop).loop? j =
    if i = j then (t.interval? j).bind fun _ => loop else t.loop? j := by
  simp only [loop?, interval?, setLoop, List.getElem?_modify]
  cases t.timers[j]? with
  | none => simp
  | some timer => by_cases same : i = j <;> simp [same]

@[simp] theorem pending_count : (t.count i).pending j = t.pending j := rfl

@[simp] theorem interval?_count : (t.count i).interval? j = t.interval? j :=
  map_modify _ _ t.timers i j fun _ => rfl

@[simp] theorem loop?_count : (t.count i).loop? j = t.loop? j :=
  congrArg Option.join (map_modify _ _ t.timers i j fun _ => rfl)

theorem runs?_count : (t.count i).runs? j =
    (t.runs? j).map fun n => if i = j then n + 1 else n := by
  simp only [runs?, count, List.getElem?_modify]
  cases t.timers[j]? with
  | none => rfl
  | some timer => by_cases same : i = j <;> simp [same]

theorem stop_of_loop (started : t.loop? i = some l) :
    t.stop i = (t.setLoop i none).awaken l := by
  simp [stop, started]

theorem stop_of_idle (idle : t.loop? i = none) : t.stop i = t := by
  simp [stop, idle]

variable [Duration τ] {e : Sleeper τ} {limit interval : τ}

/-- Lets a loop sleep for the interval of its timer. -/
def sleep (t : Timetable τ) (loop i : Nat) : Timetable τ :=
  match t.interval? i with
  | none => t
  | some interval =>
    { t with
      sleepers := t.sleepers ++ [⟨loop, i, t.now + interval⟩]
      sleeps := t.sleeps ++ [interval] }

/-- Starts a timer with a new loop, unless it is running. -/
def start (t : Timetable τ) (i : Nat) : Timetable τ :=
  match t.interval? i, t.loop? i with
  | some _, none => ({ t.setLoop i (some t.loops) with loops := t.loops + 1 }).sleep t.loops i
  | _, _ => t

/-- The one of two loops that wakes up first. Of two that wake up at the same time, this is the one
that went to sleep first. -/
def earlier (a b : Sleeper τ) : Sleeper τ := if b.wakes < a.wakes then b else a

/-- The loop that is the first to wake up by a time. -/
def nextDue (t : Timetable τ) (limit : τ) : Option (Sleeper τ) :=
  match t.sleepers.filter (·.wakes ≤ limit) with
  | [] => none
  | e :: es => some (es.foldl earlier e)

/-- A lap of a loop that wakes up: its timer works, whether it fails or not, and the loop falls
asleep again. -/
def lap (work : Work σ ρ) (e : Sleeper τ) (t : Timetable τ) (s : σ) : Timetable τ × σ :=
  let (_, t, s) := runOnce work e.timer { t.awaken e.loop with now := e.wakes } s
  (t.sleep e.loop e.timer, s)

/-- Wakes up the loops that are due by a time, at most so many. -/
def wake (work : Work σ ρ) (limit : τ) : Nat → Timetable τ → σ → Timetable τ × σ
  | 0, t, s => (t, s)
  | n + 1, t, s =>
    match t.nextDue limit with
    | none => (t, s)
    | some e =>
      -- The loop sleeps again before the next one is looked for.
      let (t, s) := lap work e t s
      wake work limit n t s

/-- How often a loop can wake up by a time. -/
def lapsOf (t : Timetable τ) (limit : τ) (e : Sleeper τ) : Nat :=
  ((t.interval? e.timer).map (Duration.laps e.wakes limit)).getD 0

/-- How often loops can wake up by a time. -/
def laps (t : Timetable τ) (limit : τ) : Nat :=
  t.sleepers.foldr (fun e n => t.lapsOf limit e + n) 0

/-- Moves the time on, and wakes up the loops that are due on the way. -/
def advance (work : Work σ ρ) (span : τ) (t : Timetable τ) (s : σ) : Timetable τ × σ :=
  let target := t.now + span
  let (t, s) := wake work target (t.laps target) t s
  ({ t with now := target }, s)

@[simp] theorem timers_sleep : (t.sleep l i).timers = t.timers := by
  unfold sleep
  split <;> rfl

@[simp] theorem now_sleep : (t.sleep l i).now = t.now := by
  unfold sleep
  split <;> rfl

@[simp] theorem loops_sleep : (t.sleep l i).loops = t.loops := by
  unfold sleep
  split <;> rfl

@[simp] theorem interval?_sleep : (t.sleep l i).interval? j = t.interval? j := by
  simp only [interval?, timers_sleep]

@[simp] theorem runs?_sleep : (t.sleep l i).runs? j = t.runs? j := by
  simp only [runs?, timers_sleep]

@[simp] theorem loop?_sleep : (t.sleep l i).loop? j = t.loop? j := by
  simp only [loop?, timers_sleep]

theorem sleepers_sleep (every : t.interval? i = some interval) :
    (t.sleep l i).sleepers = t.sleepers ++ [⟨l, i, t.now + interval⟩] := by
  simp [sleep, every]

/-- A loop that goes to sleep sleeps for its timer. -/
theorem pending_sleep (every : t.interval? i = some interval) : (t.sleep l i).pending j =
    t.pending j ++ if i = j then [⟨l, i, t.now + interval⟩] else [] := by
  rw [pending, sleepers_sleep every, List.filter_append, pending]
  by_cases same : i = j <;> simp [same]

/-- A timer that is running is not started again. -/
theorem start_of_loop (started : t.loop? i = some l) : t.start i = t := by
  simp [start, started]

theorem start_of_missing (missing : t.interval? i = none) : t.start i = t := by
  simp [start, missing]

theorem start_of_idle (every : t.interval? i = some interval) (idle : t.loop? i = none) :
    t.start i = ({ t.setLoop i (some t.loops) with loops := t.loops + 1 }).sleep t.loops i := by
  simp [start, every, idle]

theorem foldl_earlier_mem (e : Sleeper τ) (es : List (Sleeper τ)) :
    es.foldl earlier e ∈ e :: es := by
  induction es generalizing e with
  | nil => exact List.mem_singleton.mpr rfl
  | cons x xs ih =>
    rw [List.foldl_cons]
    rcases List.mem_cons.mp (ih (earlier e x)) with first | later
    · rw [first, earlier]
      split <;> simp
    · exact List.mem_cons_of_mem _ (List.mem_cons_of_mem _ later)

/-- The loop that is woken up next sleeps and is due. -/
theorem nextDue_eq_some (h : t.nextDue limit = some e) : e ∈ t.sleepers ∧ e.wakes ≤ limit := by
  unfold nextDue at h
  cases due : t.sleepers.filter (·.wakes ≤ limit) with
  | nil => simp [due] at h
  | cons x xs =>
    have chosen : xs.foldl earlier x = e := by simpa [due] using h
    have mem : e ∈ t.sleepers.filter (·.wakes ≤ limit) := by
      rw [due, ← chosen]
      exact foldl_earlier_mem x xs
    simpa using mem

/-- When no loop is woken up, none is due. -/
theorem nextDue_eq_none (h : t.nextDue limit = none) : ∀ e ∈ t.sleepers, ¬ e.wakes ≤ limit := by
  unfold nextDue at h
  cases due : t.sleepers.filter (·.wakes ≤ limit) with
  | nil => simpa using due
  | cons x xs => simp [due] at h

/-- The timetable after a lap, which what the timer does in its work does not change. -/
theorem lap_fst (work : Work σ ρ) (s : σ) : (lap work e t s).1 =
    (({ t.awaken e.loop with now := e.wakes }).count e.timer).sleep e.loop e.timer := rfl

end Timetable

end Fulfilment
