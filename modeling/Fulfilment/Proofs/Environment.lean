import Fulfilment.Program

/-!
# Runs in an open environment

A responder settles every reply in advance. An environment only says which replies it allows in a
state and which states they may lead to. A statement about all runs of a program in an environment
therefore covers every pattern of failures that the environment allows, and a responder is the
special case in which there is exactly one run.

## Main definitions

* `Program.Event`, `Program.Moment` - a call with its reply, and the state that they lead to
* `Program.Environment` - the replies that are allowed, and the states that they may lead to
* `Program.Runs` - the runs of a program in an environment
* `Program.Asks` - whether a program makes calls of some kind only
* `Program.Along` - a relation between each state in a row and the next

## Main results

* `Program.runs_bind_iff` - a run of two programs in sequence is a run of each of them
* `Program.runs_run`, `Program.Runs.eq_run` - the only run that a responder allows
* `Program.exists_runs` - where every call can be answered, every program has a run
* `Program.Asks.unnoticed` - a change of the state which a program does not notice
* `Program.Runs.keeps`, `Program.Runs.along`, `Program.Runs.unchanged` - what single calls do, as a
  whole run
-/

namespace Fulfilment.Program

variable {Call : Type} {Reply : Call → Type} {α β σ : Type}

/-- A call with the reply to it. -/
abbrev Event (Call : Type) (Reply : Call → Type) := (c : Call) × Reply c

/-- An event and the state that it leads to. -/
abbrev Moment (Call : Type) (Reply : Call → Type) (σ : Type) := Event Call Reply × σ

/-- Which events are allowed in a state, and which states they may lead to. -/
abbrev Environment (Call : Type) (Reply : Call → Type) (σ : Type) :=
  σ → Event Call Reply → σ → Prop

/-- The events of some moments. -/
def events (ms : List (Moment Call Reply σ)) : List (Event Call Reply) := ms.map (·.1)

/-- The states of some moments. -/
def states (ms : List (Moment Call Reply σ)) : List σ := ms.map (·.2)

/-- The environment in which a responder replies. -/
def Environment.of (respond : Responder Call Reply σ) : Environment Call Reply σ :=
  fun s e u => respond e.1 s = (e.2, u)

/-- The runs of a program: the state at the beginning, the moments in order, the result, and the
state at the end. -/
inductive Runs (env : Environment Call Reply σ) :
    Program Call Reply α → σ → List (Moment Call Reply σ) → α → σ → Prop where
  /-- A program that is done makes no call. -/
  | done (a : α) (s : σ) : Runs env (done a) s [] a s
  /-- A call is answered, and the program goes on with the reply. -/
  | call {c : Call} {next : Reply c → Program Call Reply α} {s u v : σ} {r : Reply c}
      {ms : List (Moment Call Reply σ)} {a : α} (answered : env s ⟨c, r⟩ u)
      (rest : Runs env (next r) u ms a v) : Runs env (call c next) s ((⟨c, r⟩, u) :: ms) a v

/-- Whether each state in a row is related to the one before, from the first to the last. -/
def Along (R : σ → σ → Prop) : σ → List σ → σ → Prop
  | s, [], v => v = s
  | s, u :: us, v => R s u ∧ Along R u us v

/-- Whether all calls of a program, whatever the replies, are of some kind. -/
def Asks (kind : Call → Prop) : Program Call Reply α → Prop
  | done _ => True
  | call c next => kind c ∧ ∀ r, Asks kind (next r)

variable {env env' : Environment Call Reply σ} {s u v : σ} {ms : List (Moment Call Reply σ)}

@[simp] theorem events_nil : events ([] : List (Moment Call Reply σ)) = [] := rfl

@[simp] theorem events_cons (m : Moment Call Reply σ) (ms : List (Moment Call Reply σ)) :
    events (m :: ms) = m.1 :: events ms := rfl

@[simp] theorem events_append (ms ns : List (Moment Call Reply σ)) :
    events (ms ++ ns) = events ms ++ events ns := by simp [events]

@[simp] theorem states_nil : states ([] : List (Moment Call Reply σ)) = [] := rfl

@[simp] theorem states_cons (m : Moment Call Reply σ) (ms : List (Moment Call Reply σ)) :
    states (m :: ms) = m.2 :: states ms := rfl

@[simp] theorem states_append (ms ns : List (Moment Call Reply σ)) :
    states (ms ++ ns) = states ms ++ states ns := by simp [states]

/-! ### States in a row -/

section Along

variable {R : σ → σ → Prop} {us ws : List σ}

@[simp] theorem along_nil : Along R s [] v ↔ v = s := Iff.rfl

@[simp] theorem along_cons : Along R s (u :: us) v ↔ R s u ∧ Along R u us v := Iff.rfl

theorem Along.append (h : Along R s us u) (h' : Along R u ws v) : Along R s (us ++ ws) v := by
  induction us generalizing s with
  | nil =>
    obtain rfl := h
    exact h'
  | cons t us ih => exact ⟨h.1, ih h.2⟩

/-- States that do not change are related step by step. -/
theorem along_of_still (refl : ∀ t, R t t) (still : ∀ t ∈ us, t = s) : Along R s us s := by
  induction us with
  | nil => rfl
  | cons u us ih =>
    obtain rfl := still u List.mem_cons_self
    exact ⟨refl u, ih fun t mem => still t (List.mem_cons_of_mem u mem)⟩

/-- What is related step by step is related as a whole. -/
theorem Along.rel (h : Along R s us v) (refl : ∀ t, R t t)
    (trans : ∀ {t t' t''}, R t t' → R t' t'' → R t t'') : R s v ∧ ∀ t ∈ us, R s t := by
  induction us generalizing s with
  | nil =>
    obtain rfl := h
    exact ⟨refl v, by simp⟩
  | cons u us ih =>
    obtain ⟨last, all⟩ := ih h.2
    refine ⟨trans h.1 last, fun t mem => ?_⟩
    rcases List.mem_cons.mp mem with rfl | mem
    · exact h.1
    · exact trans h.1 (all t mem)

theorem Along.mono {R' : σ → σ → Prop} (h : Along R s us v) (le : ∀ t u, R t u → R' t u) :
    Along R' s us v := by
  induction us generalizing s with
  | nil => exact h
  | cons u us ih => exact ⟨le s u h.1, ih h.2⟩

theorem Along.last (h : Along R s us v) : us.getLastD s = v := by
  induction us generalizing s with
  | nil => exact h.symm
  | cons u us ih =>
    rw [List.getLastD_cons]
    exact ih h.2

end Along

/-! ### The runs of a program by its form -/

@[simp] theorem runs_done_iff {a b : α} :
    Runs env (.done a) s ms b v ↔ ms = [] ∧ b = a ∧ v = s := by
  constructor
  · intro h
    cases h
    exact ⟨rfl, rfl, rfl⟩
  · rintro ⟨rfl, rfl, rfl⟩
    exact .done _ _

theorem runs_call_iff {c : Call} {next : Reply c → Program Call Reply α} {a : α} :
    Runs env (.call c next) s ms a v ↔
      ∃ r u ns, env s ⟨c, r⟩ u ∧ Runs env (next r) u ns a v ∧ ms = (⟨c, r⟩, u) :: ns := by
  constructor
  · intro h
    cases h with
    | call answered rest => exact ⟨_, _, _, answered, rest, rfl⟩
  · rintro ⟨r, u, ns, answered, rest, rfl⟩
    exact .call answered rest

theorem Runs.bind {p : Program Call Reply α} {f : α → Program Call Reply β}
    {ns : List (Moment Call Reply σ)} {a : α} {b : β} (first : Runs env p s ms a u)
    (second : Runs env (f a) u ns b v) : Runs env (p.bind f) s (ms ++ ns) b v := by
  induction first with
  | done a s => exact second
  | call answered _ ih => exact .call answered (ih second)

/-- A run of two programs in sequence is a run of the first and then one of the second. -/
theorem runs_bind_iff {p : Program Call Reply α} {f : α → Program Call Reply β} {b : β} :
    Runs env (p.bind f) s ms b v ↔
      ∃ ms₁ a u ms₂, Runs env p s ms₁ a u ∧ Runs env (f a) u ms₂ b v ∧ ms = ms₁ ++ ms₂ := by
  constructor
  · intro h
    induction p generalizing s ms with
    | done a => exact ⟨[], a, s, ms, .done a s, h, rfl⟩
    | call c next ih =>
      obtain ⟨r, u, ns, answered, rest, rfl⟩ := runs_call_iff.mp h
      obtain ⟨ms₁, a, w, ms₂, first, second, rfl⟩ := ih r rest
      exact ⟨_, a, w, ms₂, .call answered first, second, rfl⟩
  · rintro ⟨ms₁, a, u, ms₂, first, second, rfl⟩
    exact first.bind second

theorem runs_map_iff {p : Program Call Reply α} {f : α → β} {b : β} :
    Runs env (p.map f) s ms b v ↔ ∃ a, Runs env p s ms a v ∧ b = f a := by
  constructor
  · intro h
    obtain ⟨ms₁, a, u, ms₂, first, second, rfl⟩ := runs_bind_iff.mp h
    obtain ⟨rfl, rfl, rfl⟩ := runs_done_iff.mp second
    exact ⟨a, by simpa using first, rfl⟩
  · rintro ⟨a, first, rfl⟩
    have whole := first.bind (f := fun a => .done (f a)) (.done (f a) v)
    rwa [List.append_nil] at whole

/-! ### Environments -/

/-- What runs in an environment runs in one that allows more. -/
theorem Runs.mono {p : Program Call Reply α} {a : α} (h : Runs env p s ms a v)
    (le : ∀ s e u, env s e u → env' s e u) : Runs env' p s ms a v := by
  induction h with
  | done a s => exact .done a s
  | call answered _ ih => exact .call (le _ _ _ answered) ih

/-- What runs in an environment, from a state with a property that is kept, runs in one that allows
as much in states with this property. -/
theorem Runs.mono_of_keeps {P : σ → Prop} {p : Program Call Reply α} {a : α}
    (h : Runs env p s ms a v) (before : P s)
    (step : ∀ s e u, P s → env s e u → env' s e u ∧ P u) : Runs env' p s ms a v := by
  induction h with
  | done a s => exact .done a s
  | call answered _ ih =>
    obtain ⟨answered', kept⟩ := step _ _ _ before answered
    exact .call answered' (ih kept)

/-- A responder allows the run that it settles. -/
theorem runs_run (respond : Responder Call Reply σ) (p : Program Call Reply α) (s : σ) :
    ∃ ms, Runs (.of respond) p s ms (p.run respond s).1 (p.run respond s).2 ∧
      events ms = p.trace respond s := by
  induction p generalizing s with
  | done a => exact ⟨[], .done a s, rfl⟩
  | call c next ih =>
    obtain ⟨ms, rest, same⟩ := ih (respond c s).1 (respond c s).2
    refine ⟨(⟨c, (respond c s).1⟩, (respond c s).2) :: ms, .call rfl rest, ?_⟩
    rw [events_cons, same]
    rfl

/-- A responder allows no other run. -/
theorem Runs.eq_run {respond : Responder Call Reply σ} {p : Program Call Reply α} {a : α}
    (h : Runs (.of respond) p s ms a v) :
    p.run respond s = (a, v) ∧ p.trace respond s = events ms := by
  induction h with
  | done a s => exact ⟨rfl, rfl⟩
  | @call c next s u v r ms a answered _ ih =>
    have replied : respond c s = (r, u) := answered
    constructor
    · rw [run_call, replied]
      exact ih.1
    · rw [trace, replied, ih.2]
      rfl

/-- Where every call can be answered in every state, every program has a run. -/
theorem exists_runs (total : ∀ s c, ∃ r u, env s ⟨c, r⟩ u) (p : Program Call Reply α) (s : σ) :
    ∃ ms a v, Runs env p s ms a v := by
  induction p generalizing s with
  | done a => exact ⟨[], a, s, .done a s⟩
  | call c next ih =>
    obtain ⟨r, u, answered⟩ := total s c
    obtain ⟨ms, a, v, rest⟩ := ih r u
    exact ⟨_, a, v, .call answered rest⟩

/-! ### Programs that make calls of one kind only -/

variable {kind : Call → Prop}

theorem asks_bind {p : Program Call Reply α} {f : α → Program Call Reply β}
    (first : p.Asks kind) (second : ∀ a, (f a).Asks kind) : (p.bind f).Asks kind := by
  induction p with
  | done a => exact second a
  | call c next ih => exact ⟨first.1, fun r => ih r (first.2 r)⟩

theorem asks_map {p : Program Call Reply α} {f : α → β} (h : p.Asks kind) : (p.map f).Asks kind :=
  asks_bind h fun _ => trivial

theorem Asks.mono {kind' : Call → Prop} {p : Program Call Reply α} (h : p.Asks kind)
    (le : ∀ c, kind c → kind' c) : p.Asks kind' := by
  induction p with
  | done a => trivial
  | call c next ih => exact ⟨le c h.1, fun r => ih r (h.2 r)⟩

/-- The calls of a run are of the kind that the program asks. -/
theorem Runs.asked {p : Program Call Reply α} {a : α} (h : Runs env p s ms a v)
    (asks : p.Asks kind) : ∀ e ∈ events ms, kind e.1 := by
  induction h with
  | done a s => simp
  | call _ _ ih =>
    intro e mem
    rw [events_cons, List.mem_cons] at mem
    rcases mem with rfl | mem
    · exact asks.1
    · exact ih (asks.2 _) e mem

/-- Every event of a run is allowed in some state. -/
theorem Runs.allowed {p : Program Call Reply α} {a : α} (h : Runs env p s ms a v) :
    ∀ e ∈ events ms, ∃ s u, env s e u := by
  induction h with
  | done a s => simp
  | call answered _ ih =>
    rw [events_cons, List.forall_mem_cons]
    exact ⟨⟨_, _, answered⟩, ih⟩

/-- A program runs in an environment that allows as much as another for calls of the kind that the
program makes. -/
theorem Runs.mono_of_asks {p : Program Call Reply α} {a : α} (h : Runs env p s ms a v)
    (asks : p.Asks kind) (le : ∀ s e u, kind e.1 → env s e u → env' s e u) :
    Runs env' p s ms a v := by
  induction h with
  | done a s => exact .done a s
  | call answered _ ih => exact .call (le _ _ _ asks.1 answered) (ih (asks.2 _))

/-- A change of the state which calls of some kind do not notice goes unnoticed by a program that
makes no others, and is still there at the end. -/
theorem Asks.unnoticed {respond : Responder Call Reply σ} {change : σ → σ}
    {p : Program Call Reply α} (asks : p.Asks kind)
    (each : ∀ c s, kind c → respond c (change s) = ((respond c s).1, change (respond c s).2))
    (s : σ) : p.run respond (change s) = ((p.run respond s).1, change (p.run respond s).2) ∧
      p.trace respond (change s) = p.trace respond s := by
  induction p generalizing s with
  | done a => exact ⟨rfl, rfl⟩
  | call c next ih =>
    obtain ⟨run, trace⟩ := ih (respond c s).1 (asks.2 _) (respond c s).2
    constructor
    · rw [run_call, each c s asks.1]
      exact run
    · rw [Program.trace, each c s asks.1]
      exact congrArg _ trace

/-- What every event keeps, a run keeps. -/
theorem Runs.keeps {P : σ → Prop} {p : Program Call Reply α} {a : α} (h : Runs env p s ms a v)
    (step : ∀ s e u, P s → env s e u → P u) (before : P s) : P v := by
  induction h with
  | done a s => exact before
  | call answered _ ih => exact ih (step _ _ _ before answered)

/-- What holds of every step of a run holds along it, if the events of the run are of some kind. -/
theorem Runs.along_of_events {R : σ → σ → Prop} {E : Event Call Reply → Prop}
    {p : Program Call Reply α} {a : α} (h : Runs env p s ms a v) (asked : ∀ e ∈ events ms, E e)
    (step : ∀ s e u, E e → env s e u → R s u) : Along R s (states ms) v := by
  induction h with
  | done a s => rfl
  | call answered _ ih =>
    rw [events_cons, List.forall_mem_cons] at asked
    exact ⟨step _ _ _ asked.1 answered, ih asked.2⟩

/-- What holds of every step of a run holds along it, if the program makes calls of some kind. -/
theorem Runs.along {R : σ → σ → Prop} {p : Program Call Reply α} {a : α} (h : Runs env p s ms a v)
    (asks : p.Asks kind) (step : ∀ s e u, kind e.1 → env s e u → R s u) :
    Along R s (states ms) v :=
  h.along_of_events (h.asked asks) step

/-- A run whose calls leave the state alone stays in one state. -/
theorem Runs.unchanged {p : Program Call Reply α} {a : α} (h : Runs env p s ms a v)
    (asks : p.Asks kind) (still : ∀ s e u, kind e.1 → env s e u → u = s) :
    v = s ∧ ∀ t ∈ states ms, t = s := by
  have along : Along (fun s u => u = s) s (states ms) v := h.along asks still
  exact along.rel (fun _ => rfl) fun first second => second.trans first

end Fulfilment.Program
