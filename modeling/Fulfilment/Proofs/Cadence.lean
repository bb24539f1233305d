import Fulfilment.Proofs.Loops

/-!
# The cadence of timers

A timer that is running works once in each of its intervals, counted from the moment at which it was
started, however the time is moved on. What a timer has done is told by the commands alone: they say
when it was running, and each of its running periods gives as many runs as whole intervals fit into
it. What the timers do in their work, failing included, plays no part.

## Main definitions

* `Timetable.Command`, `Timetable.obeyAll` - commands, and a timetable that obeys them
* `Timetable.Periods` - the running periods of a timer, as the commands have it
* `Timetable.Standing` - how a timer stands between commands, and `Timetable.OnBeat`, while loops
  are woken up
* `Timetable.Accounted` - what each command keeps

## Main results

* `Timetable.Standing.advance` - a running timer keeps to its beat
* `Timetable.Accounted.obey`, `Timetable.Accounted.obeyAll` - commands are kept account of
* `Timetable.runs_of_periods` - the runs of a timer, and its loops that sleep, after any commands
-/

namespace Fulfilment.Timetable

variable {σ ρ : Type} {t : Timetable Nat} {e : Sleeper Nat} {i j l limit interval : Nat}

/-! ### How a timer stands -/

/-- How a timer stands between commands, when it has worked so often in former running periods and
by command, and now it is idle or has been running for so long. -/
inductive Standing (t : Timetable Nat) (i interval base : Nat) : Option Nat → Prop
  /-- An idle timer has no loop. -/
  | idle (runs : t.runs? i = some base) (loop : t.loop? i = none) : Standing t i interval base none
  /-- The loop of a running timer sleeps until the next whole interval from its beginning. -/
  | running {length loop : Nat} (begun : Nat) (now : begun + length = t.now)
      (started : t.loop? i = some loop) (runs : t.runs? i = some (base + length / interval))
      (asleep : t.pending i = [⟨loop, i, begun + (length / interval + 1) * interval⟩]) :
      Standing t i interval base (some length)

/-- What does not touch a timer leaves it standing. -/
theorem Standing.of_same {t' : Timetable Nat} {base : Nat} {p : Option Nat}
    (stands : Standing t i interval base p) (runs : t'.runs? i = t.runs? i)
    (loop : t'.loop? i = t.loop? i) (asleep : t'.pending i = t.pending i) (now : t'.now = t.now) :
    Standing t' i interval base p := by
  cases stands with
  | idle runs' loop' => exact .idle (runs.trans runs') (loop.trans loop')
  | running begun now' started runs' asleep' =>
    exact .running begun (now'.trans now.symm) (loop.trans started) (runs.trans runs')
      (asleep.trans asleep')

/-- The timer is running if a running period is under way. -/
theorem Standing.loop_isSome {base : Nat} {p : Option Nat}
    (stands : Standing t i interval base p) : (t.loop? i).isSome = p.isSome := by
  cases stands with
  | idle _ loop => simp [loop]
  | running _ _ started _ _ => simp [started]

theorem Standing.resting {base : Nat} (stands : Standing t i interval base none) :
    t.loop? i = none ∧ t.runs? i = some base := by
  cases stands with
  | idle runs loop => exact ⟨loop, runs⟩

theorem Standing.count {base : Nat} {p : Option Nat} (stands : Standing t i interval base p)
    (j : Nat) : Standing (t.count j) i interval (base + if j = i then 1 else 0) p := by
  cases stands with
  | idle runs loop =>
    refine .idle ?_ (by rwa [loop?_count])
    rw [runs?_count, runs, Option.map_some]
    split <;> rfl
  | @running length l begun now started runs asleep =>
    refine .running begun now (by rwa [loop?_count]) ?_ (by rwa [pending_count])
    rw [runs?_count, runs, Option.map_some, Nat.add_right_comm]
    split <;> rfl

/-- How a timer that is running stands while the loops are woken up that are due by a time. -/
structure OnBeat (i l interval base begun limit : Nat) (t : Timetable Nat) (k : Nat) : Prop where
  every : t.interval? i = some interval
  loop : t.loop? i = some l
  runs : t.runs? i = some (base + k)
  asleep : t.pending i = [⟨l, i, begun + (k + 1) * interval⟩]
  reached : begun + k * interval ≤ limit

variable {base begun : Nat} {p : Option Nat}

/-- A lap of a timer takes it to its next beat, and a lap of another timer leaves it where it is. -/
theorem OnBeat.lap {k : Nat} (beat : OnBeat i l interval base begun limit t k) (h : t.Orderly)
    (mem : e ∈ t.sleepers) (reached : e.wakes ≤ limit) (work : Work σ ρ) (s : σ) :
    ∃ k, OnBeat i l interval base begun limit (Timetable.lap work e t s).1 k := by
  obtain ⟨every', started⟩ := interval?_of_loop? (h.of_mem mem).1
  have every := beat.every
  by_cases same : e.timer = i
  · -- The timer has one loop only, so this is the one that was to wake up on the next beat.
    have asleep := (h.of_mem mem).2
    rw [same, beat.asleep, List.singleton_inj] at asleep
    subst asleep
    refine ⟨k + 1, by rwa [interval?_lap], by rw [loop?_lap, beat.loop], ?_, ?_, ?_⟩
    · rw [runs?_lap, beat.runs]
      simp [Nat.add_assoc]
    · rw [h.pending_lap mem work s every]
      simp only [if_true, Nat.add_mul (k + 1) 1, Nat.one_mul, Nat.add_assoc]
    · exact reached
  · refine ⟨k, by rwa [interval?_lap], by rw [loop?_lap, beat.loop], ?_, ?_, beat.reached⟩
    · rw [runs?_lap, beat.runs]
      simp [same]
    · rw [h.pending_lap mem work s started, if_neg same, beat.asleep]

/-- While the time is moved on, a running timer keeps to its beat and an idle one rests. -/
theorem Standing.advance (stands : Standing t i interval base p) (h : t.Orderly)
    (every : t.interval? i = some interval) (work : Work σ ρ) (span : Nat) (s : σ) :
    Standing (t.advance work span s).1 i interval base (p.map (· + span)) := by
  cases stands with
  | idle runs loop =>
    have rests := (advance_induction (P := fun t => t.runs? i = some base ∧ t.loop? i = none) work
      span s h ⟨runs, loop⟩ (fun _ _ rests => rests) ?_).2
    · exact .idle rests.1 rests.2
    · rintro t e s orderly ⟨runs, loop⟩ mem -
      -- A loop that sleeps has a timer that is running, so it is not a loop of this one.
      have other : e.timer ≠ i := fun same => by
        have started := (orderly.of_mem mem).1
        rw [same, loop] at started
        cases started
      rw [runs?_lap, loop?_lap, runs]
      exact ⟨by simp [other], loop⟩
  | @running length l begun now started runs asleep =>
    have whole := Nat.div_mul_le_self length interval
    have beat : OnBeat i l interval base begun (t.now + span) t (length / interval) :=
      ⟨every, started, runs, asleep, by omega⟩
    obtain ⟨-, k, beat⟩ := advance_induction
      (P := fun t' => ∃ k, OnBeat i l interval base begun (t.now + span) t' k) work span s h
      ⟨_, beat⟩ (fun _ _ ⟨k, b⟩ => ⟨k, b.every, b.loop, b.runs, b.asleep, b.reached⟩)
      fun _ e s orderly ⟨_, beat⟩ mem reached => beat.lap orderly mem reached work s
    -- The loop is not due any more, so the time lies in the interval after the last beat.
    have sleeps : ⟨l, i, begun + (k + 1) * interval⟩ ∈ (t.advance work span s).1.pending i := by
      rw [beat.asleep]
      exact List.mem_singleton_self _
    have later : t.now + span < begun + (k + 1) * interval :=
      advance_overdue work span s h _ (List.mem_of_mem_filter sleeps)
    have beats : (length + span) / interval = k := by
      have reached := beat.reached
      refine Nat.div_eq_of_lt_le ?_ ?_ <;> omega
    refine .running begun ?_ beat.loop ?_ ?_
    · show begun + (length + span) = t.now + span
      omega
    · rw [beats]
      exact beat.runs
    · rw [beats]
      exact beat.asleep

/-! ### Commands and running periods -/

/-- What can be done with the timers of a timetable. -/
inductive Command where
  /-- Starts a timer. -/
  | start (i : Nat)
  /-- Stops a timer. -/
  | stop (i : Nat)
  /-- Lets a timer work once. -/
  | runOnce (i : Nat)
  /-- Moves the time on. -/
  | advance (seconds : Nat)
deriving DecidableEq

/-- A timetable obeys a command. -/
def obey (work : Work σ ρ) : Timetable Nat × σ → Command → Timetable Nat × σ
  | (t, s), .start i => (t.start i, s)
  | (t, s), .stop i => (t.stop i, s)
  | (t, s), .runOnce i => (runOnce work i t s).2
  | (t, s), .advance seconds => t.advance work seconds s

/-- A timetable obeys commands. -/
def obeyAll (work : Work σ ρ) (commands : List Command) (x : Timetable Nat × σ) :
    Timetable Nat × σ :=
  commands.foldl (obey work) x

/-- The lengths of the running periods of a timer. -/
structure Periods where
  /-- Those that are over. -/
  ended : List Nat := []
  /-- The one that is under way. -/
  underWay : Option Nat := none

/-- All running periods. -/
def Periods.all (p : Periods) : List Nat := p.ended ++ p.underWay.toList

/-- The running periods of a timer after one more command: a running period begins with a start of
the timer while it is idle, and ends with the next stop. -/
def Periods.next (i : Nat) (p : Periods) : Command → Periods
  | .start j => if j = i ∧ p.underWay = none then { p with underWay := some 0 } else p
  | .stop j => if j = i then { ended := p.all } else p
  | .runOnce _ => p
  | .advance seconds => { p with underWay := p.underWay.map (· + seconds) }

/-- The running periods of a timer under some commands. -/
def Periods.of (i : Nat) (commands : List Command) : Periods := commands.foldl (next i) {}

/-- How often a whole interval fits into the periods. -/
def beats (interval : Nat) (lengths : List Nat) : Nat := (lengths.map (· / interval)).sum

variable {periods : Periods} {m : Nat}

theorem beats_all (interval : Nat) (p : Periods) : beats interval p.all =
    beats interval p.ended + (p.underWay.map (· / interval)).getD 0 := by
  cases under : p.underWay <;> simp [Periods.all, beats, under]

/-- What is kept by each command: the order of the loops, and the account of one timer. -/
structure Accounted (t : Timetable Nat) (i interval m : Nat) (periods : Periods) : Prop where
  orderly : t.Orderly
  every : t.interval? i = some interval
  stands : Standing t i interval (m + beats interval periods.ended) periods.underWay

/-- A timer that is started while it is idle begins a running period. -/
theorem Accounted.start (h : Accounted t i interval m periods) (j : Nat) :
    Accounted (t.start j) i interval m (periods.next i (.start j)) := by
  obtain ⟨orderly, every, stands⟩ := h
  refine ⟨orderly.start j, interval?_start.trans every, ?_⟩
  by_cases same : j = i
  · subst same
    have running := stands.loop_isSome
    cases idle : t.loop? j with
    | some l =>
      have under : periods.underWay ≠ none := by
        intro none
        simp [idle, none] at running
      rw [start_of_loop idle]
      simpa [Periods.next, under] using stands
    | none =>
      have under : periods.underWay = none := by simpa [idle] using running
      rw [under] at stands
      -- No time has passed in the new running period.
      have first : Standing (t.start j) j interval (m + beats interval periods.ended) (some 0) := by
        have loop : (t.start j).loop? j = some t.loops := by
          rw [loop?_start every idle, if_pos rfl]
        refine .running t.now now_start.symm loop ?_ ?_
        · rw [runs?_start, stands.resting.2, Nat.zero_div, Nat.add_zero]
        · rw [pending_start every idle, orderly.pending_of_idle idle, if_pos rfl, Nat.zero_div,
            Nat.zero_add, Nat.one_mul, List.nil_append]
      simpa [Periods.next, under] using first
  · have next : periods.next i (.start j) = periods := by simp [Periods.next, same]
    obtain ⟨loop, asleep⟩ := start_of_ne (t := t) same
    rw [next]
    exact stands.of_same runs?_start loop asleep now_start

/-- A timer that is stopped ends its running period, which goes into the account. -/
theorem Accounted.stop (h : Accounted t i interval m periods) (j : Nat) :
    Accounted (t.stop j) i interval m (periods.next i (.stop j)) := by
  obtain ⟨orderly, every, stands⟩ := h
  refine ⟨orderly.stop j, by rwa [interval?_stop], ?_⟩
  by_cases same : j = i
  · subst same
    have next : periods.next j (.stop j) = { ended := periods.all } := by simp [Periods.next]
    rw [next, beats_all]
    -- The runs stay as they are: those of the last period now count among the periods that ended.
    refine .idle ?_ (by rw [loop?_stop, if_pos rfl])
    rw [runs?_stop]
    cases under : periods.underWay with
    | none =>
      rw [under] at stands
      exact stands.resting.2
    | some length =>
      rw [under] at stands
      cases stands with
      | running _ _ _ runs _ => rw [runs, Option.map_some, Option.getD_some, Nat.add_assoc]
  · have next : periods.next i (.stop j) = periods := by simp [Periods.next, same]
    rw [next]
    refine stands.of_same runs?_stop ?_ ?_ now_stop
    · rw [loop?_stop, if_neg same]
    · rw [orderly.pending_stop, if_neg same]

/-- Work at command is counted for the timer that did it, and is nothing to the loops. -/
theorem Accounted.runOnce (h : Accounted t i interval m periods) (work : Work σ ρ) (s : σ)
    (j : Nat) : Accounted (runOnce work j t s).2.1 i interval
      (m + if j = i then 1 else 0) (periods.next i (.runOnce j)) := by
  obtain ⟨orderly, every, stands⟩ := h
  refine ⟨orderly.count j, by rwa [← interval?_count (i := j)] at every, ?_⟩
  rw [Nat.add_right_comm]
  exact stands.count j

/-- Moving the time on prolongs the running period that is under way. -/
theorem Accounted.advance (h : Accounted t i interval m periods) (work : Work σ ρ) (s : σ)
    (span : Nat) :
    Accounted (t.advance work span s).1 i interval m (periods.next i (.advance span)) where
  orderly := h.orderly.advance work span s
  every := (h.orderly.interval?_advance work span s).trans h.every
  stands := h.stands.advance h.orderly h.every work span s

/-- A command is kept account of: an order to work counts at once, and the others by the running
periods. -/
theorem Accounted.obey (h : Accounted t i interval m periods) (work : Work σ ρ) (s : σ)
    (c : Command) : Accounted (obey work (t, s) c).1 i interval
      (m + if c = .runOnce i then 1 else 0) (periods.next i c) := by
  cases c with
  | start j => exact h.start j
  | stop j => exact h.stop j
  | runOnce j =>
    simp only [Command.runOnce.injEq]
    exact h.runOnce work s j
  | advance span => exact h.advance work s span

/-- Any commands are kept account of. -/
theorem Accounted.obeyAll (h : Accounted t i interval m periods) (work : Work σ ρ) (s : σ)
    (commands : List Command) : Accounted (obeyAll work commands (t, s)).1 i interval
      (m + commands.count (.runOnce i)) (commands.foldl (Periods.next i) periods) := by
  -- The account so far is general, because the first command changes it for the rest.
  induction commands generalizing t m periods s with
  | nil => exact h
  | cons c cs ih =>
    have rest := ih (h.obey work s c) (Timetable.obey work (t, s) c).2
    rw [List.count_cons, Nat.add_comm (cs.count _), ← Nat.add_assoc]
    simpa only [Timetable.obeyAll, List.foldl_cons, beq_iff_eq] using rest

/-- Timers of positive intervals begin without any account. -/
theorem accounted_new (now : Nat) (timers : List (String × Nat))
    (positive : ∀ timer ∈ timers, 0 < timer.2) {name : String}
    (there : timers[i]? = some (name, interval)) : Accounted (new now timers) i interval 0 {} where
  orderly := orderly_new now timers positive
  every := by simp [interval?, new, there]
  stands := .idle (by simp [runs?, new, there, beats]) (by simp [loop?, new, there])

/-- What timers do in their work, failing included, has no influence on a timetable. -/
theorem obeyAll_congr {σ' ρ' : Type} (work : Work σ ρ) (work' : Work σ' ρ')
    (commands : List Command) (t : Timetable Nat) (s : σ) (s' : σ') :
    (obeyAll work commands (t, s)).1 = (obeyAll work' commands (t, s')).1 := by
  induction commands generalizing t s s' with
  | nil => rfl
  | cons c cs ih =>
    have same : (obey work (t, s) c).1 = (obey work' (t, s') c).1 := by
      cases c with
      | start j => rfl
      | stop j => rfl
      | runOnce j => rfl
      | advance span =>
        have woken := wake_congr work work' (t.now + span) (t.laps (t.now + span)) t s s'
        simp only [obey, advance, woken]
    calc (obeyAll work cs (obey work (t, s) c)).1
        = (obeyAll work' cs ((obey work (t, s) c).1, (obey work' (t, s') c).2)).1 := ih _ _ _
      _ = (obeyAll work' cs (obey work' (t, s') c)).1 := by rw [same]

/-- As long as a timer is not started again, no running period begins. -/
theorem foldl_next_of_idle (ended : List Nat) {later : List Command} (never : .start i ∉ later) :
    later.foldl (Periods.next i) { ended } = { ended } := by
  induction later with
  | nil => rfl
  | cons c cs ih =>
    rw [List.mem_cons, not_or] at never
    have next : Periods.next i { ended } c = { ended } := by
      cases c with
      | start j =>
        have other : j ≠ i := fun same => never.1 (same ▸ rfl)
        simp [Periods.next, other]
      | stop j => simp [Periods.next, Periods.all]
      | runOnce j => rfl
      | advance span => rfl
    rw [List.foldl_cons, next, ih never.2]

theorem Accounted.runs (h : Accounted t i interval m periods) :
    t.runs? i = some (m + beats interval periods.all) := by
  obtain ⟨-, -, stands⟩ := h
  rw [beats_all, ← Nat.add_assoc]
  cases under : periods.underWay with
  | none =>
    rw [under] at stands
    exact stands.resting.2
  | some length =>
    rw [under] at stands
    cases stands with
    | running _ _ _ runs _ => exact runs

/-- While loops are woken up, one loop sleeps for a timer that is running, and none for another. -/
theorem Accounted.length_pending_wake (h : Accounted t i interval m periods) (work : Work σ ρ)
    (limit laps : Nat) (s : σ) :
    ((wake work limit laps t s).1.pending i).length = if (t.loop? i).isSome then 1 else 0 := by
  obtain ⟨orderly, loop⟩ := wake_induction (P := fun t' => t'.loop? i = t.loop? i) work limit laps
    s h.orderly rfl (fun _ _ s _ before _ _ => (loop?_lap work s).trans before)
  obtain ⟨time, asleep⟩ := orderly.asleep i
  rw [asleep, loop]
  cases t.loop? i <;> rfl

/-- The runs of a timer after any commands: one for each command to work, and as many for each of
its running periods as whole intervals fit into it. One loop sleeps for the timer at any moment
while it is running, and none otherwise, and starting it once more changes nothing. When it is
stopped, it works only by command until it is started again. None of this depends on what the
timers do in their work, or on whether they fail. -/
theorem runs_of_periods (work : Work σ ρ) (now : Nat) (timers : List (String × Nat))
    (positive : ∀ timer ∈ timers, 0 < timer.2) {name : String}
    (there : timers[i]? = some (name, interval)) (commands : List Command) (s : σ) :
    let after := fun commands => (obeyAll work commands (new now timers, s)).1
    let t := after commands
    ∃ timer, t.timers[i]? = some timer ∧
      timer.runs =
        commands.count (.runOnce i) + beats interval (Periods.of i commands).all ∧
      timer.isRunning = (Periods.of i commands).underWay.isSome ∧
      (∀ limit laps, ((wake work limit laps t s).1.pending i).length =
        if timer.isRunning then 1 else 0) ∧
      (timer.isRunning → t.start i = t) ∧
      (∀ later, .start i ∉ later → (after (commands ++ .stop i :: later)).runs? i =
        some (timer.runs + later.count (.runOnce i))) ∧
      ∀ {σ' ρ' : Type} (work' : Work σ' ρ') (s' : σ'),
        (obeyAll work' commands (new now timers, s')).1 = t := by
  intro after t
  have all (commands : List Command) := (accounted_new now timers positive there).obeyAll work s
    commands
  have accounted : Accounted t i interval (0 + commands.count (.runOnce i))
    (Periods.of i commands) := all commands
  have runs := accounted.runs
  rw [Nat.zero_add] at runs
  obtain ⟨timer, known, same⟩ : ∃ timer, t.timers[i]? = some timer ∧
      timer.runs = commands.count (.runOnce i) + beats interval (Periods.of i commands).all := by
    simpa [runs?] using runs
  have running : timer.isRunning = (t.loop? i).isSome := by
    simp [Timer.isRunning, loop?, known]
  refine ⟨timer, known, same, ?_, ?_, ?_, ?_, ?_⟩
  · rw [running]
    exact accounted.stands.loop_isSome
  · intro limit laps
    rw [running]
    exact accounted.length_pending_wake work limit laps s
  · intro started
    rw [running] at started
    obtain ⟨l, loop⟩ := Option.isSome_iff_exists.mp started
    exact start_of_loop loop
  · intro later never
    -- The stop ends the last running period, and without a start no other one begins.
    have rest := (all (commands ++ .stop i :: later)).runs
    have stopped : (commands ++ .stop i :: later).foldl (Periods.next i) {} =
        { ended := (Periods.of i commands).all } := by
      rw [List.foldl_append, List.foldl_cons]
      have next : Periods.next i (commands.foldl (Periods.next i) {}) (.stop i) =
        { ended := (Periods.of i commands).all } := by simp [Periods.next, Periods.of]
      rw [next]
      exact foldl_next_of_idle _ never
    rw [stopped] at rest
    rw [same]
    refine rest.trans (congrArg some ?_)
    simp [Periods.all, List.count_append]
    omega
  · intro σ' ρ' work' s'
    exact obeyAll_congr work' work commands (new now timers) s' s

/-- A timer of three seconds that fails every other time has worked four times after nine seconds,
once of these by command. A start in between changes nothing, and after a stop only commands let it
work. -/
theorem runs_of_periods_sample :
    let work : Work Nat Unit := fun _ n =>
      (if n % 2 = 0 then .error (.raised .runtime .null) else .ok (), n + 1)
    let timers := [("batch", 3), ("report", 5)]
    let commands : List Command := [.start 0, .advance 7, .start 0, .runOnce 0, .advance 2]
    let later : List Command := [.start 1, .advance 9, .runOnce 0]
    (∀ timer ∈ timers, 0 < timer.2) ∧ timers[0]? = some ("batch", 3) ∧ .start 0 ∉ later ∧
      ∃ timer, (obeyAll work commands (new 0 timers, 0)).1.timers[0]? = some timer ∧
        timer.runs = 4 ∧ timer.isRunning = true ∧
        (obeyAll work (commands ++ .stop 0 :: later) (new 0 timers, 0)).1.runs? 0 = some 5 := by
  intro work timers commands later
  have positive : ∀ timer ∈ timers, 0 < timer.2 := by decide
  have there : timers[0]? = some ("batch", 3) := rfl
  have never : .start 0 ∉ later := by decide
  obtain ⟨timer, known, runs, running, -, -, stopped, -⟩ :=
    runs_of_periods work 0 timers positive there commands 0
  have four : timer.runs = 4 := runs.trans (by decide)
  refine ⟨positive, there, never, timer, known, four, running.trans (by decide), ?_⟩
  rw [stopped later never, four]
  rfl

end Fulfilment.Timetable
