import Fulfilment.Proofs.Environment

/-!
# Runs side by side

Some collaborators are called without being listened to: what they reply may show in a result, but
it shall not change what is done. Take two runs that differ in such replies alone. A statement about
both of them says that they end in one state, that the calls which are heeded and the replies to
these are the same, and how the two results are related; and such statements go over from parts of
a program to the whole.

The relation between the results may depend on the events. This lets a result tell of the replies
that are not heeded, as long as it says how.

## Main definitions

* `Program.Environment.heedless` - calls of some kind are answered in any way, and change nothing
* `Program.heeded` - the events of all other calls
* `Program.Parallel` - two programs side by side

## Main results

* `Program.parallel_bind` - two programs in sequence, beside two others
* `Program.parallel_of_asks` - where nothing is left unheeded, both runs are the same
-/

namespace Fulfilment.Program

variable {Call : Type} {Reply : Call → Type} {α α' β β' σ : Type} {aside : Call → Prop}
  {respond : Responder Call Reply σ}

/-- Calls of some kind are answered in any way and change nothing, and a responder replies to all
others. -/
def Environment.heedless (aside : Call → Prop) (respond : Responder Call Reply σ) :
    Environment Call Reply σ :=
  fun s e u => (aside e.1 → u = s) ∧ (¬ aside e.1 → respond e.1 s = (e.2, u))

/-- The events whose calls are not of some kind, in order. -/
def heeded (aside : Call → Prop) [DecidablePred aside] (es : List (Event Call Reply)) :
    List (Event Call Reply) :=
  es.filter fun e => ¬ aside e.1

/-- Two programs side by side: run from one state, they end in one state after the same heeded
events, and their events and results are related. -/
def Parallel (aside : Call → Prop) [DecidablePred aside] (respond : Responder Call Reply σ)
    (R : List (Event Call Reply) → α → List (Event Call Reply) → α' → Prop)
    (p : Program Call Reply α) (p' : Program Call Reply α') : Prop :=
  ∀ s ms a v ms' a' v', Runs (.heedless aside respond) p s ms a v →
    Runs (.heedless aside respond) p' s ms' a' v' →
      v' = v ∧ heeded aside (events ms') = heeded aside (events ms) ∧
        R (events ms) a (events ms') a'

/-- Where a responder replies to all calls, its replies are allowed if those of some kind change
nothing. -/
theorem heedless_of {respond' : Responder Call Reply σ} {s u : σ} {e : Event Call Reply}
    (same : ∀ c, ¬ aside c → respond' c = respond c) (still : ∀ c s, aside c → (respond' c s).2 = s)
    (h : Environment.of respond' s e u) : Environment.heedless aside respond s e u := by
  have replied : respond' e.1 s = (e.2, u) := h
  constructor
  · intro besides
    rw [← still e.1 s besides, replied]
  · intro not
    rw [← same e.1 not, replied]

/-! ### Heeded events -/

variable [DecidablePred aside] {es fs : List (Event Call Reply)} {e : Event Call Reply}

@[simp] theorem heeded_nil : heeded aside ([] : List (Event Call Reply)) = [] := rfl

theorem heeded_cons_of_not (not : ¬ aside e.1) : heeded aside (e :: es) = e :: heeded aside es := by
  simp [heeded, not]

theorem heeded_cons_of (besides : aside e.1) : heeded aside (e :: es) = heeded aside es := by
  simp [heeded, besides]

@[simp] theorem heeded_append : heeded aside (es ++ fs) = heeded aside es ++ heeded aside fs :=
  List.filter_append es fs

/-! ### Programs side by side -/

variable {R : List (Event Call Reply) → α → List (Event Call Reply) → α' → Prop}
  {S : List (Event Call Reply) → β → List (Event Call Reply) → β' → Prop}
  {p : Program Call Reply α} {p' : Program Call Reply α'}

theorem Parallel.mono
    {R' : List (Event Call Reply) → α → List (Event Call Reply) → α' → Prop}
    (h : Parallel aside respond R p p') (le : ∀ es a es' a', R es a es' a' → R' es a es' a') :
    Parallel aside respond R' p p' := by
  intro s ms a v ms' a' v' run run'
  obtain ⟨state, calls, results⟩ := h s ms a v ms' a' v' run run'
  exact ⟨state, calls, le _ _ _ _ results⟩

/-- What is known of the calls of two programs is known of their events. -/
theorem Parallel.asked {kind : Call → Prop} (h : Parallel aside respond R p p')
    (asks : p.Asks kind) (asks' : p'.Asks kind) :
    Parallel aside respond (fun es a es' a' => R es a es' a' ∧ (∀ e ∈ es, kind e.1) ∧
      ∀ e ∈ es', kind e.1) p p' := by
  intro s ms a v ms' a' v' run run'
  obtain ⟨state, calls, results⟩ := h s ms a v ms' a' v' run run'
  exact ⟨state, calls, results, run.asked asks, run'.asked asks'⟩

theorem parallel_done {a : α} {a' : α'} (related : R [] a [] a') :
    Parallel aside respond R (.done a) (.done a') := by
  intro s ms b v ms' b' v' run run'
  obtain ⟨rfl, rfl, rfl⟩ := runs_done_iff.mp run
  obtain ⟨rfl, rfl, rfl⟩ := runs_done_iff.mp run'
  exact ⟨rfl, rfl, related⟩

theorem parallel_bind {f : α → Program Call Reply β} {f' : α' → Program Call Reply β'}
    (first : Parallel aside respond R p p')
    (second : ∀ es a es' a', R es a es' a' →
      Parallel aside respond (fun fs b fs' b' => S (es ++ fs) b (es' ++ fs') b') (f a) (f' a')) :
    Parallel aside respond S (p.bind f) (p'.bind f') := by
  intro s ms b v ms' b' v' run run'
  obtain ⟨ms₁, a, u, ms₂, run₁, run₂, rfl⟩ := runs_bind_iff.mp run
  obtain ⟨ms₁', a', u', ms₂', run₁', run₂', rfl⟩ := runs_bind_iff.mp run'
  obtain ⟨rfl, calls₁, results⟩ := first _ _ _ _ _ _ _ run₁ run₁'
  -- The second parts start from one state, as the first ones have ended there.
  obtain ⟨rfl, calls₂, whole⟩ := second _ _ _ _ results _ _ _ _ _ _ _ run₂ run₂'
  refine ⟨rfl, ?_, ?_⟩
  · rw [events_append, events_append, heeded_append, heeded_append, calls₁, calls₂]
  · rwa [events_append, events_append]

theorem parallel_map {f : α → β} {f' : α' → β'} (h : Parallel aside respond R p p')
    (results : ∀ es a es' a', R es a es' a' → S es (f a) es' (f' a')) :
    Parallel aside respond S (p.map f) (p'.map f') := by
  apply parallel_bind h
  intro es a es' a' related
  apply parallel_done
  rw [List.append_nil, List.append_nil]
  exact results es a es' a' related

/-- A call that is heeded has one reply in both runs. -/
theorem parallel_call {c : Call} {next : Reply c → Program Call Reply α}
    {next' : Reply c → Program Call Reply α'} (not : ¬ aside c)
    (rest : ∀ r, Parallel aside respond (fun es a es' a' => R (⟨c, r⟩ :: es) a (⟨c, r⟩ :: es') a')
      (next r) (next' r)) :
    Parallel aside respond R (.call c next) (.call c next') := by
  intro s ms a v ms' a' v' run run'
  obtain ⟨r, u, ns, answered, after, rfl⟩ := runs_call_iff.mp run
  obtain ⟨r', u', ns', answered', after', rfl⟩ := runs_call_iff.mp run'
  have same : (r', u') = (r, u) := (answered'.2 not).symm.trans (answered.2 not)
  cases same
  obtain ⟨rfl, calls, results⟩ := rest r _ _ _ _ _ _ _ after after'
  refine ⟨rfl, ?_, results⟩
  rw [events_cons, events_cons, heeded_cons_of_not not, heeded_cons_of_not not, calls]

/-- A call that is not heeded has any two replies, and the state stays as it is. -/
theorem parallel_aside {c : Call} {next : Reply c → Program Call Reply α}
    {next' : Reply c → Program Call Reply α'} (besides : aside c)
    (rest : ∀ r r', Parallel aside respond
      (fun es a es' a' => R (⟨c, r⟩ :: es) a (⟨c, r'⟩ :: es') a') (next r) (next' r')) :
    Parallel aside respond R (.call c next) (.call c next') := by
  intro s ms a v ms' a' v' run run'
  obtain ⟨r, u, ns, answered, after, rfl⟩ := runs_call_iff.mp run
  obtain ⟨r', u', ns', answered', after', rfl⟩ := runs_call_iff.mp run'
  obtain rfl := answered.1 besides
  obtain rfl := answered'.1 besides
  obtain ⟨rfl, calls, results⟩ := rest r r' _ _ _ _ _ _ _ after after'
  refine ⟨rfl, ?_, results⟩
  rw [events_cons, events_cons, heeded_cons_of besides, heeded_cons_of besides, calls]

/-- A program whose calls are all heeded has one run. -/
theorem parallel_of_asks (h : p.Asks (¬ aside ·)) :
    Parallel aside respond
      (fun es a es' a' => es' = es ∧ a' = a ∧ ∀ e ∈ es, ¬ aside e.1) p p := by
  induction p with
  | done a => exact parallel_done ⟨rfl, rfl, by simp⟩
  | call c next ih =>
    apply parallel_call h.1
    intro r
    refine (ih r (h.2 r)).mono ?_
    rintro es a es' a' ⟨rfl, rfl, all⟩
    exact ⟨rfl, rfl, List.forall_mem_cons.mpr ⟨h.1, all⟩⟩

/-- After a program whose calls are all heeded the two runs go on with one result. -/
theorem parallel_bind_of_asks {f : α → Program Call Reply β} {f' : α → Program Call Reply β'}
    (h : p.Asks (¬ aside ·))
    (second : ∀ es a, (∀ e ∈ es, ¬ aside e.1) →
      Parallel aside respond (fun fs b fs' b' => S (es ++ fs) b (es ++ fs') b') (f a) (f' a)) :
    Parallel aside respond S (p.bind f) (p.bind f') := by
  apply parallel_bind (parallel_of_asks h)
  rintro es a es' a' ⟨rfl, rfl, all⟩
  exact second es' a' all

end Fulfilment.Program
