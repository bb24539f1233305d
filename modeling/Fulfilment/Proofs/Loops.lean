import Fulfilment.Timetable
import Mathlib.Algebra.Order.BigOperators.Group.List
import Mathlib.Algebra.Order.Ring.Nat

/-!
# Loops and their timers

A timetable is orderly when each of its running timers has one loop, which sleeps, and no other
loops sleep. All that is done with a timetable keeps it so: waking up loops, and starting and
stopping timers. The timers do not get into each other's way, because a loop that wakes up or is
let go is the loop of one timer.

Waking up comes to an end. Each loop has a number of laps left by a time, a lap takes one from the
loop that wakes up, and the others keep theirs. So after as many laps as there were at first no loop
is due.

The time is counted in whole seconds here.

## Main definitions

* `Timetable.Orderly` - whether the loops of a timetable belong to its running timers, one to each
* `Timetable.due` - how many laps are left by a time

## Main results

* `Timetable.Orderly.lap`, `Timetable.Orderly.start`, `Timetable.Orderly.stop` - order is kept
* `Timetable.wake_induction`, `Timetable.advance_induction` - what laps of due loops keep, moving
  the time on keeps
* `Timetable.wake_overdue`, `Timetable.advance_overdue` - after enough laps no loop is due
* `Timetable.wake_congr` - when timers work does not depend on what they do
-/

namespace Fulfilment.Timetable

variable {σ ρ : Type} {t : Timetable Nat} {e : Sleeper Nat} {i j l n limit interval : Nat}

/-! ### Loops and their timers -/

/-- Whether each loop belongs to a running timer, and each running timer has one loop, which
sleeps. -/
structure Orderly (t : Timetable Nat) : Prop where
  /-- No timer works without a pause. -/
  positive : ∀ i interval, t.interval? i = some interval → 0 < interval
  /-- For a running timer its loop sleeps, and for no other timer any loop does. -/
  asleep : ∀ i, ∃ time, t.pending i = (t.loop? i).toList.map fun l => ⟨l, i, time⟩
  /-- The loops of the timers were started. -/
  known : ∀ i l, t.loop? i = some l → l < t.loops
  /-- No two timers have one loop. -/
  own : ∀ i j l, t.loop? i = some l → t.loop? j = some l → i = j

theorem mem_pending (mem : e ∈ t.sleepers) : e ∈ t.pending e.timer := by
  simpa [pending] using mem

theorem interval?_of_loop? (started : t.loop? i = some l) :
    ∃ interval, t.interval? i = some interval := by
  unfold loop? at started
  unfold interval?
  cases there : t.timers[i]? with
  | none => simp [there] at started
  | some timer => exact ⟨timer.interval, rfl⟩

namespace Orderly

theorem pending_of_loop (h : t.Orderly) (started : t.loop? i = some l) :
    ∃ time, t.pending i = [⟨l, i, time⟩] := by
  obtain ⟨time, asleep⟩ := h.asleep i
  exact ⟨time, by simpa [started] using asleep⟩

theorem pending_of_idle (h : t.Orderly) (idle : t.loop? i = none) : t.pending i = [] := by
  obtain ⟨time, asleep⟩ := h.asleep i
  simpa [idle] using asleep

/-- A loop that sleeps is the loop of its timer, and it sleeps once. -/
theorem of_mem (h : t.Orderly) (mem : e ∈ t.sleepers) :
    t.loop? e.timer = some e.loop ∧ t.pending e.timer = [e] := by
  have mem := mem_pending mem
  cases started : t.loop? e.timer with
  | none =>
    rw [h.pending_of_idle started] at mem
    cases mem
  | some l =>
    obtain ⟨time, asleep⟩ := h.pending_of_loop started
    rw [asleep, List.mem_singleton] at mem
    rw [asleep]
    exact ⟨by rw [mem], by rw [← mem]⟩

/-- Waking up the loop of a timer touches no loop of another timer. -/
theorem pending_awaken_of (h : t.Orderly) (started : t.loop? i = some l) :
    (t.awaken l).pending j = if i = j then [] else t.pending j := by
  rw [pending_awaken]
  by_cases same : i = j
  · subst same
    obtain ⟨time, asleep⟩ := h.pending_of_loop started
    simp [asleep]
  · rw [if_neg same, List.filter_eq_self]
    intro e mem
    -- A loop that sleeps for another timer is not this one, since no two timers share a loop.
    have other : e ∈ t.sleepers ∧ e.timer = j := by simpa [pending] using mem
    have loop := (h.of_mem other.1).1
    rw [other.2] at loop
    have ne : e.loop ≠ l := fun eq => same (h.own i j l started (eq ▸ loop))
    simpa using ne

end Orderly

/-! ### One lap -/

theorem interval?_lap (work : Work σ ρ) (s : σ) :
    (lap work e t s).1.interval? j = t.interval? j := by
  rw [lap_fst, interval?_sleep, interval?_count]
  rfl

theorem loop?_lap (work : Work σ ρ) (s : σ) : (lap work e t s).1.loop? j = t.loop? j := by
  rw [lap_fst, loop?_sleep, loop?_count]
  rfl

theorem runs?_lap (work : Work σ ρ) (s : σ) : (lap work e t s).1.runs? j =
    (t.runs? j).map fun n => if e.timer = j then n + 1 else n := by
  rw [lap_fst, runs?_sleep, runs?_count]
  rfl

theorem loops_lap (work : Work σ ρ) (s : σ) : (lap work e t s).1.loops = t.loops := by
  rw [lap_fst, loops_sleep]
  rfl

theorem sleepers_lap (work : Work σ ρ) (s : σ) (every : t.interval? e.timer = some interval) :
    (lap work e t s).1.sleepers =
      t.sleepers.filter (·.loop ≠ e.loop) ++ [⟨e.loop, e.timer, e.wakes + interval⟩] := by
  have same : (({ t.awaken e.loop with now := e.wakes }).count e.timer).interval? e.timer =
      some interval := by
    rw [interval?_count]
    exact every
  rw [lap_fst, sleepers_sleep same]
  rfl

/-- After a lap the loop sleeps for another interval, and the loops of other timers are where they
were. -/
theorem Orderly.pending_lap (h : t.Orderly) (mem : e ∈ t.sleepers) (work : Work σ ρ) (s : σ)
    (every : t.interval? e.timer = some interval) : (lap work e t s).1.pending j =
      if e.timer = j then [⟨e.loop, e.timer, e.wakes + interval⟩] else t.pending j := by
  have rest := h.pending_awaken_of (j := j) (h.of_mem mem).1
  rw [pending, awaken] at rest
  rw [pending, sleepers_lap work s every, List.filter_append, rest]
  by_cases same : e.timer = j <;> simp [same]

/-- A lap keeps the loops with their timers. -/
theorem Orderly.lap (h : t.Orderly) (mem : e ∈ t.sleepers) (work : Work σ ρ) (s : σ) :
    (lap work e t s).1.Orderly where
  positive i interval every := h.positive i interval (by rwa [interval?_lap] at every)
  asleep i := by
    have started := (h.of_mem mem).1
    obtain ⟨interval, every⟩ := interval?_of_loop? started
    rw [h.pending_lap mem work s every, loop?_lap]
    by_cases same : e.timer = i
    · subst same
      exact ⟨e.wakes + interval, by simp [started]⟩
    · rw [if_neg same]
      exact h.asleep i
  known i l started := by
    rw [loop?_lap] at started
    rw [loops_lap]
    exact h.known i l started
  own i j l started started' := by
    rw [loop?_lap] at started started'
    exact h.own i j l started started'

/-! ### Waking up what is due -/

/-- What laps of due loops keep, waking up keeps. -/
theorem wake_induction {P : Timetable Nat → Prop} (work : Work σ ρ) (limit n : Nat) (s : σ)
    (orderly : t.Orderly) (before : P t)
    (step : ∀ t e s, Orderly t → P t → e ∈ t.sleepers → e.wakes ≤ limit → P (lap work e t s).1) :
    (wake work limit n t s).1.Orderly ∧ P (wake work limit n t s).1 := by
  induction n generalizing t s with
  | zero => exact ⟨orderly, before⟩
  | succ n ih =>
    rw [wake]
    cases due : t.nextDue limit with
    | none => exact ⟨orderly, before⟩
    | some e =>
      obtain ⟨mem, reached⟩ := nextDue_eq_some due
      exact ih _ (orderly.lap mem work s) (step t e s orderly before mem reached)

/-- What timers do in their work has no influence on when they work. -/
theorem wake_congr {σ' ρ' : Type} (work : Work σ ρ) (work' : Work σ' ρ') (limit n : Nat)
    (t : Timetable Nat) (s : σ) (s' : σ') :
    (wake work limit n t s).1 = (wake work' limit n t s').1 := by
  induction n generalizing t s s' with
  | zero => rfl
  | succ n ih =>
    rw [wake, wake]
    cases t.nextDue limit with
    | none => rfl
    | some e => exact ih _ _ _

/-- How many laps a loop has left by a time. -/
def dueLaps (t : Timetable Nat) (limit : Nat) (e : Sleeper Nat) : Nat :=
  if e.wakes ≤ limit then t.lapsOf limit e else 0

/-- How many laps are left by a time. -/
def due (t : Timetable Nat) (limit : Nat) : Nat := (t.sleepers.map (t.dueLaps limit)).sum

theorem due_le_laps (t : Timetable Nat) (limit : Nat) : t.due limit ≤ t.laps limit := by
  rw [laps, ← List.foldr_map, ← List.sum_eq_foldr]
  refine List.sum_le_sum fun e _ => ?_
  unfold dueLaps
  split
  · exact Nat.le_refl _
  · exact Nat.zero_le _

/-- A loop that is due has one lap less left after it. -/
theorem dueLaps_again (every : t.interval? e.timer = some interval) (positive : 0 < interval)
    (reached : e.wakes ≤ limit) :
    t.dueLaps limit e = t.dueLaps limit ⟨e.loop, e.timer, e.wakes + interval⟩ + 1 := by
  have laps : t.dueLaps limit e = (limit - e.wakes) / interval + 1 := by
    simp [dueLaps, reached, lapsOf, every, Duration.laps]
  rw [laps]
  -- Either another lap ends by the limit, or this one is the last.
  by_cases again : e.wakes + interval ≤ limit
  · have split : limit - e.wakes = limit - (e.wakes + interval) + interval := by omega
    simp [dueLaps, again, lapsOf, every, Duration.laps, split, Nat.add_div_right _ positive]
  · have few : limit - e.wakes < interval := by omega
    simp [dueLaps, again, Nat.div_eq_of_lt few]

/-- Each lap is one less left. -/
theorem Orderly.due_lap (h : t.Orderly) (mem : e ∈ t.sleepers) (reached : e.wakes ≤ limit)
    (work : Work σ ρ) (s : σ) : t.due limit = (Timetable.lap work e t s).1.due limit + 1 := by
  obtain ⟨started, asleep⟩ := h.of_mem mem
  obtain ⟨interval, every⟩ := interval?_of_loop? started
  -- The loop sleeps once, so the sleepers are this one and those that the lap leaves alone.
  have once : t.sleepers.filter (·.loop = e.loop) = [e] := by
    rw [← asleep, pending]
    refine List.filter_congr fun x there => ?_
    have loop := (h.of_mem there).1
    by_cases same : x.timer = e.timer
    · have mem' := mem_pending there
      rw [same, asleep, List.mem_singleton] at mem'
      simp [mem']
    · have ne : x.loop ≠ e.loop := fun eq => same (h.own _ _ _ loop (eq ▸ started))
      simp [same, ne]
  have parts : (t.sleepers.filter (·.loop ≠ e.loop) ++ [e]).Perm t.sleepers := by
    rw [← once]
    exact (List.perm_append_comm).trans (by
      simpa using List.filter_append_perm (fun x => decide (x.loop = e.loop)) t.sleepers)
  -- The intervals stay, so the laps that a loop has left depend on when it wakes up only.
  have same : (Timetable.lap work e t s).1.dueLaps limit = t.dueLaps limit := by
    funext x
    simp only [dueLaps, lapsOf, interval?_lap]
  rw [due, ← (parts.map _).sum_nat, due, sleepers_lap work s every]
  simp only [List.map_append, List.map_cons, List.map_nil, List.sum_append, List.sum_cons,
    List.sum_nil, same]
  rw [dueLaps_again every (h.positive _ _ every) reached]
  omega

/-- After as many laps as were left no loop is due. -/
theorem wake_overdue (work : Work σ ρ) (s : σ) (h : t.Orderly) (enough : t.due limit ≤ n) :
    ∀ e ∈ (wake work limit n t s).1.sleepers, limit < e.wakes := by
  induction n generalizing t s with
  | zero =>
    intro e mem
    by_contra reached
    -- A loop that is due has a lap left.
    have one := h.due_lap mem (by omega : e.wakes ≤ limit) work s
    omega
  | succ n ih =>
    rw [wake]
    cases next : t.nextDue limit with
    | none =>
      intro e mem
      exact Nat.lt_of_not_le (nextDue_eq_none next e mem)
    | some e =>
      obtain ⟨mem, reached⟩ := nextDue_eq_some next
      have rest : (lap work e t s).1.due limit ≤ n := by
        have one := h.due_lap mem reached work s
        omega
      exact ih _ (h.lap mem work s) rest

/-- What laps of due loops keep, whatever the time is said to be, moving the time on keeps. -/
theorem advance_induction {P : Timetable Nat → Prop} (work : Work σ ρ) (span : Nat) (s : σ)
    (orderly : t.Orderly) (before : P t) (timeless : ∀ t now, P t → P { t with now := now })
    (step : ∀ t' e s, Orderly t' → P t' → e ∈ t'.sleepers → e.wakes ≤ t.now + span →
      P (lap work e t' s).1) :
    (t.advance work span s).1.Orderly ∧ P (t.advance work span s).1 := by
  obtain ⟨orderly, kept⟩ := wake_induction work (t.now + span) (t.laps (t.now + span)) s orderly
    before step
  exact ⟨⟨orderly.positive, orderly.asleep, orderly.known, orderly.own⟩, timeless _ _ kept⟩

/-- When the time was moved on, no loop is due any more. -/
theorem advance_overdue (work : Work σ ρ) (span : Nat) (s : σ) (h : t.Orderly) :
    ∀ e ∈ (t.advance work span s).1.sleepers, t.now + span < e.wakes :=
  wake_overdue work s h (due_le_laps t (t.now + span))

theorem Orderly.advance (h : t.Orderly) (work : Work σ ρ) (span : Nat) (s : σ) :
    (t.advance work span s).1.Orderly :=
  (advance_induction (P := fun _ => True) work span s h trivial (fun _ _ _ => trivial)
    fun _ _ _ _ _ _ _ => trivial).1

theorem Orderly.interval?_advance (h : t.Orderly) (work : Work σ ρ) (span : Nat) (s : σ) :
    (t.advance work span s).1.interval? j = t.interval? j :=
  (advance_induction (P := fun t' => t'.interval? j = t.interval? j) work span s h rfl
    (fun _ _ same => same) fun _ _ s _ same _ _ => (interval?_lap work s).trans same).2

/-! ### Starting and stopping -/

/-- A start leaves the timetable alone, unless the timer is there and is idle. -/
theorem start_cases (t : Timetable Nat) (i : Nat) :
    t.start i = t ∨ ∃ interval, t.interval? i = some interval ∧ t.loop? i = none := by
  cases every : t.interval? i with
  | none => exact .inl (start_of_missing every)
  | some interval =>
    cases idle : t.loop? i with
    | some l => exact .inl (start_of_loop idle)
    | none => exact .inr ⟨interval, rfl, rfl⟩

theorem interval?_start : (t.start i).interval? j = t.interval? j := by
  rcases start_cases t i with same | ⟨interval, every, idle⟩
  · rw [same]
  · rw [start_of_idle every idle, interval?_sleep]
    exact interval?_setLoop

theorem runs?_start : (t.start i).runs? j = t.runs? j := by
  rcases start_cases t i with same | ⟨interval, every, idle⟩
  · rw [same]
  · rw [start_of_idle every idle, runs?_sleep]
    exact runs?_setLoop

theorem now_start : (t.start i).now = t.now := by
  rcases start_cases t i with same | ⟨interval, every, idle⟩
  · rw [same]
  · rw [start_of_idle every idle, now_sleep]
    rfl

section Start

variable (every : t.interval? i = some interval) (idle : t.loop? i = none)

include every idle

theorem loops_start : (t.start i).loops = t.loops + 1 := by
  rw [start_of_idle every idle, loops_sleep]

theorem loop?_start : (t.start i).loop? j = if i = j then some t.loops else t.loop? j := by
  have set : (t.setLoop i (some t.loops)).loop? j =
      if i = j then some t.loops else t.loop? j := by
    rw [loop?_setLoop]
    by_cases same : i = j
    · subst same
      simp [every]
    · simp [same]
  rw [start_of_idle every idle, loop?_sleep, ← set]
  rfl

theorem pending_start : (t.start i).pending j =
    t.pending j ++ if i = j then [⟨t.loops, i, t.now + interval⟩] else [] := by
  have same : Timetable.interval? { t.setLoop i (some t.loops) with loops := t.loops + 1 } i =
      some interval := by
    rw [← every]
    exact interval?_setLoop
  rw [start_of_idle every idle, pending_sleep same]
  rfl

end Start

/-- Starting a timer touches no loop of another timer. -/
theorem start_of_ne (other : i ≠ j) :
    (t.start i).loop? j = t.loop? j ∧ (t.start i).pending j = t.pending j := by
  rcases start_cases t i with same | ⟨interval, every, idle⟩
  · rw [same]
    exact ⟨rfl, rfl⟩
  · rw [loop?_start every idle, pending_start every idle, if_neg other, if_neg other,
      List.append_nil]
    exact ⟨rfl, rfl⟩

/-- A timer that is started gets a loop of its own. -/
theorem Orderly.start (h : t.Orderly) (i : Nat) : (t.start i).Orderly := by
  rcases start_cases t i with same | ⟨interval, every, idle⟩
  · rwa [same]
  -- The number of the new loop is above those of all loops that the timers have.
  have new : ∀ j l, t.loop? j = some l → l ≠ t.loops := fun j l started =>
    Nat.ne_of_lt (h.known j l started)
  constructor
  · intro j n every'
    exact h.positive j n (by rwa [interval?_start] at every')
  · intro j
    rw [pending_start every idle, loop?_start every idle]
    by_cases same : i = j
    · subst same
      exact ⟨t.now + interval, by simp [h.pending_of_idle idle]⟩
    · simpa [same] using h.asleep j
  · intro j l started
    rw [loop?_start every idle] at started
    rw [loops_start every idle]
    by_cases same : i = j
    · simp only [same, if_true, Option.some.injEq] at started
      omega
    · have before := h.known j l (by simpa [same] using started)
      omega
  · intro j k l started started'
    rw [loop?_start every idle] at started started'
    by_cases same : i = j <;> by_cases same' : i = k
    · exact same.symm.trans same'
    · rw [if_pos same, Option.some.injEq] at started
      rw [if_neg same'] at started'
      exact absurd started.symm (new k l started')
    · rw [if_neg same] at started
      rw [if_pos same', Option.some.injEq] at started'
      exact absurd started'.symm (new j l started)
    · rw [if_neg same] at started
      rw [if_neg same'] at started'
      exact h.own j k l started started'

theorem interval?_stop : (t.stop i).interval? j = t.interval? j := by
  cases started : t.loop? i with
  | none => rw [stop_of_idle started]
  | some l => rw [stop_of_loop started, interval?_awaken, interval?_setLoop]

theorem runs?_stop : (t.stop i).runs? j = t.runs? j := by
  cases started : t.loop? i with
  | none => rw [stop_of_idle started]
  | some l => rw [stop_of_loop started, runs?_awaken, runs?_setLoop]

theorem loop?_stop : (t.stop i).loop? j = if i = j then none else t.loop? j := by
  cases started : t.loop? i with
  | none =>
    rw [stop_of_idle started]
    by_cases same : i = j
    · rw [if_pos same, ← same, started]
    · rw [if_neg same]
  | some l => simp [stop_of_loop started, loop?_setLoop]

theorem now_stop : (t.stop i).now = t.now := by
  cases started : t.loop? i with
  | none => rw [stop_of_idle started]
  | some l => rw [stop_of_loop started]; rfl

theorem loops_stop : (t.stop i).loops = t.loops := by
  cases started : t.loop? i with
  | none => rw [stop_of_idle started]
  | some l => rw [stop_of_loop started]; rfl

/-- Stopping a timer touches no loop of another timer. -/
theorem Orderly.pending_stop (h : t.Orderly) :
    (t.stop i).pending j = if i = j then [] else t.pending j := by
  cases started : t.loop? i with
  | none =>
    rw [stop_of_idle started]
    by_cases same : i = j
    · rw [if_pos same, ← same, h.pending_of_idle started]
    · rw [if_neg same]
  | some l =>
    rw [stop_of_loop started]
    exact h.pending_awaken_of started

/-- The loop of a timer that is stopped sleeps no more. -/
theorem Orderly.stop (h : t.Orderly) (i : Nat) : (t.stop i).Orderly where
  positive j interval every := h.positive j interval (by rwa [interval?_stop] at every)
  asleep j := by
    rw [h.pending_stop, loop?_stop]
    by_cases same : i = j
    · simp [same]
    · simpa [same] using h.asleep j
  known j l started := by
    rw [loops_stop]
    rw [loop?_stop] at started
    by_cases same : i = j
    · simp [same] at started
    · exact h.known j l (by rwa [if_neg same] at started)
  own j k l started started' := by
    rw [loop?_stop] at started started'
    by_cases same : i = j
    · simp [same] at started
    · by_cases same' : i = k
      · simp [same'] at started'
      · exact h.own j k l (by rwa [if_neg same] at started) (by rwa [if_neg same'] at started')

theorem Orderly.count (h : t.Orderly) (i : Nat) : (t.count i).Orderly where
  positive j interval every := h.positive j interval (by rwa [interval?_count] at every)
  asleep j := by
    rw [pending_count, loop?_count]
    exact h.asleep j
  known j l started := h.known j l (by rwa [loop?_count] at started)
  own j k l started started' := h.own j k l (by rwa [loop?_count] at started)
    (by rwa [loop?_count] at started')

/-- Timers that have not been started have no loops. -/
theorem orderly_new (now : Nat) (timers : List (String × Nat))
    (positive : ∀ timer ∈ timers, 0 < timer.2) : (new now timers).Orderly := by
  have idle : ∀ i, (new now timers).loop? i = none := by
    intro i
    simp only [loop?, new, List.getElem?_map, Option.map_map]
    cases timers[i]? <;> rfl
  constructor
  · intro i interval every
    obtain ⟨timer, mem, rfl⟩ : ∃ timer, timers[i]? = some timer ∧ timer.2 = interval := by
      simpa [interval?, new] using every
    exact positive timer (List.mem_of_getElem? mem)
  · intro i
    rw [idle]
    exact ⟨0, rfl⟩
  · intro i l started
    rw [idle] at started
    cases started
  · intro i j l started
    rw [idle] at started
    cases started

end Fulfilment.Timetable
