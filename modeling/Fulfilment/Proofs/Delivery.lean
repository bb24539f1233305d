import Fulfilment.Rehearsal.Script

/-!
# The delivery of events

A publication reaches exactly the subscriptions that have been made before it, to the name of the
event or to every event, in the order of subscription and name by name. Handlers that fail change
nothing about it, and what handlers subscribe to while they react counts from the next publication
on. With one exception every subscription is reached once: an event that is published under the name
for every event reaches the subscriptions to every event twice.

What happens is noted by an observer, who changes nothing. After any row of commands the bus keeps
exactly the subscriptions that have been noted.

## Main definitions

* `Bus.Conduct` - what handlers do: they change the state, subscribe others, and may fail
* `Bus.Command` - a subscription from outside, or a publication
* `Bus.obey` - a command is carried out
* `Bus.Note`, `Bus.observe` - what an observer notes, and a command under observation
* `Bus.Keeps` - whether a bus keeps the subscriptions that have been noted

## Main results

* `Bus.perm_audience_iff` - whether all those who are to be reached are reached once
* `Bus.observe_publish` - what is noted of a publication
* `Bus.keeps_observed` - the observer and the bus agree
* `Bus.publish_delivers` - the delivery of an event after any row of commands
-/

namespace Fulfilment.Bus

/-- A handler and the name that it is subscribed to. -/
structure Subscription (η : Type) where
  /-- The name. -/
  name : String
  /-- The handler. -/
  handler : η
deriving Repr

/-- What a handler does with an event. -/
structure Deed (η σ : Type) where
  /-- The state after it. -/
  state : σ
  /-- The subscriptions that it makes, in order. -/
  subscriptions : List (Subscription η) := []
  /-- Its failure. -/
  failure : Option Failure := none

/-- What handlers do in a state. -/
abbrev Conduct (η σ : Type) := η → σ → Deed η σ

/-- A call on a bus from outside. -/
inductive Command (η ε : Type) where
  /-- A handler is subscribed. -/
  | subscribe (x : Subscription η)
  /-- An event is published. -/
  | publish (event : ε)

/-- What an observer notes. -/
inductive Note (η : Type) where
  /-- A subscription is made. -/
  | subscribed (x : Subscription η)
  /-- A handler reacts to an event, and perhaps fails. -/
  | reacted (handler : η) (failure : Option Failure)

variable {η σ ε : Type}

/-- The bus after further subscriptions. -/
def subscribeAll (b : Bus η) (xs : List (Subscription η)) : Bus η :=
  xs.foldl (fun b x => b.subscribe x.name x.handler) b

/-- The conduct of handlers as their reaction on the bus. -/
def Conduct.reaction (c : Conduct η σ) : Reaction η σ := fun h (s, b) =>
  let deed := c h s
  ((deed.state, b.subscribeAll deed.subscriptions), deed.failure)

/-- The state and the bus after a command, where the conduct of handlers depends on the event. -/
def obey (conduct : ε → Conduct η σ) (name : ε → String) (x : σ × Bus η) :
    Command η ε → σ × Bus η
  | .subscribe y => (x.1, x.2.subscribe y.name y.handler)
  | .publish e => publish (conduct e).reaction (name e) x.1 x.2

/-- The same conduct under observation. -/
def Conduct.observed (c : Conduct η σ) : Conduct η (σ × List (Note η)) := fun h (s, ns) =>
  let deed := c h s
  { state := (deed.state, ns ++ .reacted h deed.failure :: deed.subscriptions.map .subscribed)
    subscriptions := deed.subscriptions
    failure := deed.failure }

/-- A command under observation. -/
def observe (conduct : ε → Conduct η σ) (name : ε → String) (x : (σ × List (Note η)) × Bus η) :
    Command η ε → (σ × List (Note η)) × Bus η
  | .subscribe y =>
    ((x.1.1, x.1.2 ++ [.subscribed y]), x.2.subscribe y.name y.handler)
  | .publish e => publish (conduct e).observed.reaction (name e) x.1 x.2

/-- The subscription of a note. -/
def Note.subscription? : Note η → Option (Subscription η)
  | subscribed x => some x
  | reacted .. => none

/-- The handler that reacts. -/
def Note.reactor? : Note η → Option η
  | reacted h _ => some h
  | subscribed _ => none

/-- The subscriptions that are noted. -/
def subscriptions (ns : List (Note η)) : List (Subscription η) := ns.filterMap Note.subscription?

/-- The handlers that have reacted. -/
def reactors (ns : List (Note η)) : List η := ns.filterMap Note.reactor?

/-- The handlers of some subscriptions that are subscribed to a name. -/
def under (name : String) (xs : List (Subscription η)) : List η :=
  (xs.filter (·.name = name)).map (·.handler)

/-- The handlers of some subscriptions that are to hear of an event. -/
def concerned (name : String) (xs : List (Subscription η)) : List η :=
  (xs.filter fun x => x.name = name || x.name = everyEvent).map (·.handler)

/-- Whether a bus keeps the subscriptions that have been noted, and no others. -/
def Keeps (ns : List (Note η)) (b : Bus η) : Prop :=
  ∀ name, b.subscribed name = under name (subscriptions ns)

variable {conduct : ε → Conduct η σ} {name : ε → String} {c : Conduct η σ} {b : Bus η} {s : σ}
  {ns : List (Note η)} {xs ys : List (Subscription η)}

@[simp] theorem subscriptions_append (ns ns' : List (Note η)) :
    subscriptions (ns ++ ns') = subscriptions ns ++ subscriptions ns' := List.filterMap_append

@[simp] theorem subscriptions_subscribed (xs : List (Subscription η)) :
    subscriptions (xs.map .subscribed) = xs := by
  simp [subscriptions, List.filterMap_map, Function.comp_def, Note.subscription?]

@[simp] theorem reactors_append (ns ns' : List (Note η)) :
    reactors (ns ++ ns') = reactors ns ++ reactors ns' := List.filterMap_append

@[simp] theorem reactors_subscribed (xs : List (Subscription η)) :
    reactors (xs.map .subscribed) = [] := by
  simp [reactors, Note.reactor?]

@[simp] theorem under_append (n : String) (xs ys : List (Subscription η)) :
    under n (xs ++ ys) = under n xs ++ under n ys := by
  simp [under]

/-! ### Who is to be reached -/

/-- Under any name but the one for every event, all those who are concerned are reached once. -/
theorem perm_concerned {n : String} (other : n ≠ everyEvent) (xs : List (Subscription η)) :
    (under n xs ++ under everyEvent xs).Perm (concerned n xs) := by
  let all := xs.filter fun x => x.name = n || x.name = everyEvent
  have named : all.filter (fun x => x.name = n) = xs.filter (·.name = n) := by
    rw [List.filter_filter]
    refine List.filter_congr fun x _ => ?_
    by_cases same : x.name = n <;> simp [same]
  have rest : all.filter (fun x => !decide (x.name = n)) = xs.filter (·.name = everyEvent) := by
    rw [List.filter_filter]
    refine List.filter_congr fun x _ => ?_
    by_cases same : x.name = n <;> simp [same, other]
  have split := (List.filter_append_perm (fun x : Subscription η => decide (x.name = n)) all).map
    (·.handler)
  rwa [named, rest, List.map_append] at split

theorem concerned_everyEvent (xs : List (Subscription η)) :
    concerned everyEvent xs = under everyEvent xs := by
  simp [concerned, under]

/-- Those who are concerned are reached once each, unless there are subscriptions to every event and
the event has this name. Then they are reached twice. -/
theorem perm_audience_iff (n : String) (xs : List (Subscription η)) :
    (under n xs ++ under everyEvent xs).Perm (concerned n xs) ↔
      n ≠ everyEvent ∨ under everyEvent xs = [] := by
  by_cases same : n = everyEvent
  · subst same
    rw [concerned_everyEvent]
    constructor
    · intro once
      have length := once.length_eq
      rw [List.length_append] at length
      exact .inr (List.length_eq_zero_iff.mp (by omega))
    · rintro (other | none)
      · exact absurd rfl other
      · rw [none, List.append_nil]
  · exact iff_of_true (perm_concerned same xs) (.inl same)

/-! ### What the bus keeps -/

theorem keeps_empty : Keeps ([] : List (Note η)) {} := fun _ => rfl

theorem Keeps.subscribe (keeps : Keeps ns b) (x : Subscription η) :
    Keeps (ns ++ [.subscribed x]) (b.subscribe x.name x.handler) := by
  intro n
  have new : subscriptions [Note.subscribed x] = [x] := rfl
  rw [subscribed_subscribe, keeps, keeps, subscriptions_append, new, under_append]
  by_cases same : x.name = n <;> simp [under, same]

theorem Keeps.subscribeAll (keeps : Keeps ns b) (xs : List (Subscription η)) :
    Keeps (ns ++ xs.map .subscribed) (b.subscribeAll xs) := by
  induction xs generalizing ns b with
  | nil =>
    rw [List.map_nil, List.append_nil]
    exact keeps
  | cons x xs ih =>
    have rest := ih (keeps.subscribe x)
    rwa [List.append_assoc] at rest

theorem Keeps.reacted (keeps : Keeps ns b) (h : η) (f : Option Failure) :
    Keeps (ns ++ [.reacted h f]) b := by
  have none : subscriptions [Note.reacted h f] = [] := rfl
  intro n
  rw [keeps, subscriptions_append, none, List.append_nil]

/-- The handlers that a bus reaches, in terms of the subscriptions that have been noted. -/
theorem Keeps.audience (keeps : Keeps ns b) (n : String) :
    b.audience n = under n (subscriptions ns) ++ under everyEvent (subscriptions ns) := by
  rw [Bus.audience, keeps, keeps]

/-! ### Observation -/

/-- All handlers react in order. What they subscribe to is noted and kept, and apart from the notes
everything is as without an observer. -/
theorem observe_reactions (keeps : Keeps ns b) (hs : List η) :
    let y := hs.foldl (fun acc h => (c.observed.reaction h acc).1) ((s, ns), b)
    (∃ during, y.1.2 = ns ++ during ∧ reactors during = hs) ∧ Keeps y.1.2 y.2 ∧
      (y.1.1, y.2) = hs.foldl (fun acc h => (c.reaction h acc).1) (s, b) := by
  induction hs generalizing s ns b with
  | nil => exact ⟨⟨[], by simp, rfl⟩, keeps, rfl⟩
  | cons h hs ih =>
    let deed := c h s
    have kept := (keeps.reacted h deed.failure).subscribeAll deed.subscriptions
    rw [List.append_assoc] at kept
    obtain ⟨⟨during, noted, rest⟩, keeps', erased⟩ := ih (s := deed.state) kept
    refine ⟨⟨.reacted h deed.failure :: deed.subscriptions.map .subscribed ++ during, ?_, ?_⟩,
      keeps', erased⟩
    · rw [← List.append_assoc]
      exact noted
    · have alone : reactors [Note.reacted h deed.failure] = [h] := rfl
      rw [List.cons_append, ← List.singleton_append, reactors_append, reactors_append, alone,
        reactors_subscribed, rest]
      rfl

variable (conduct name) in
/-- What is noted of a publication: the handlers that are reached, and no others. -/
theorem observe_publish (keeps : Keeps ns b) (e : ε) :
    let y := observe conduct name ((s, ns), b) (.publish e)
    (∃ during, y.1.2 = ns ++ during ∧ reactors during = b.audience (name e)) ∧ Keeps y.1.2 y.2 ∧
      (y.1.1, y.2) = obey conduct name (s, b) (.publish e) :=
  observe_reactions keeps (b.audience (name e))

variable (conduct name) in
/-- After any row of commands the bus keeps the subscriptions that have been noted, and apart from
the notes everything is as without an observer. -/
theorem keeps_observed (keeps : Keeps ns b) (commands : List (Command η ε)) :
    let x := commands.foldl (observe conduct name) ((s, ns), b)
    Keeps x.1.2 x.2 ∧ (x.1.1, x.2) = commands.foldl (obey conduct name) (s, b) := by
  induction commands generalizing s ns b with
  | nil => exact ⟨keeps, rfl⟩
  | cons command commands ih =>
    cases command with
    | subscribe y => exact ih (keeps.subscribe y)
    | publish e =>
      obtain ⟨-, keeps', erased⟩ := observe_publish conduct name (s := s) keeps e
      rw [List.foldl_cons, List.foldl_cons, ← erased]
      exact ih keeps'

/-- An event is delivered, after any row of commands, to the subscriptions that have been noted up
to then: first those to its name, then those to every event, each in the order of subscription. So
all those who are concerned are reached once each, unless the event has the name for every event and
there are subscriptions to it. What is noted is what happens without an observer as well. -/
theorem publish_delivers (conduct : ε → Conduct η σ) (name : ε → String)
    (before : List (Command η ε)) (e : ε) (s : σ) :
    let x := before.foldl (observe conduct name) ((s, []), {})
    let y := observe conduct name x (.publish e)
    let known := subscriptions x.1.2
    (y.1.1, y.2) = (before ++ [Command.publish e]).foldl (obey conduct name) (s, {}) ∧
    ∃ during, y.1.2 = x.1.2 ++ during ∧
      reactors during = under (name e) known ++ under everyEvent known ∧
      ((reactors during).Perm (concerned (name e) known) ↔
        name e ≠ everyEvent ∨ under everyEvent known = []) := by
  intro x y known
  obtain ⟨keeps, erased⟩ :
      Keeps x.1.2 x.2 ∧ (x.1.1, x.2) = before.foldl (obey conduct name) (s, {}) :=
    keeps_observed conduct name keeps_empty before
  obtain ⟨⟨during, noted, reached⟩, -, erased'⟩ :=
    observe_publish conduct name (s := x.1.1) keeps e
  rw [keeps.audience] at reached
  refine ⟨?_, during, noted, reached, ?_⟩
  · rw [List.foldl_append, ← erased]
    exact erased'
  · rw [reached]
    exact perm_audience_iff (name e) known

end Fulfilment.Bus

namespace Fulfilment.Rehearsal.Subscriber

open Bus

/-- What a handler does with an event of a name and a number. -/
def conduct (event : String × Value) : Conduct Subscriber (List Value) := fun h heard =>
  match h with
  | mk _ mark failure others =>
    { state := heard ++ [.list [mark, .text event.1, event.2]]
      subscriptions := others.map fun h => ⟨h.event, h⟩
      failure := failure }

theorem react_eq (name : String) (n : Value) : react name n = (conduct (name, n)).reaction := by
  funext ⟨_, mark, failure, others⟩ ⟨heard, b⟩
  simp [react, Conduct.reaction, conduct, subscribeAll, List.foldl_map, subscribe]

/-- An event of the name for every event reaches the only subscription to every event twice. -/
theorem heard_twice :
    let h : Subscriber := mk "*" (.int 1) none []
    let x := observe conduct Prod.fst (([], []), {}) (.subscribe ⟨"*", h⟩)
    let y := observe conduct Prod.fst x (.publish ("*", .int 1))
    (∃ during, y.1.2 = x.1.2 ++ during ∧
      ¬ (reactors during).Perm (concerned "*" (subscriptions x.1.2))) ∧
    (publish (react "*" (.int 1)) "*" [] (h.subscribe {})).1 =
      [.list [.int 1, .text "*", .int 1], .list [.int 1, .text "*", .int 1]] := by
  intro h x y
  refine ⟨⟨[.reacted h none, .reacted h none], rfl, fun once => ?_⟩, rfl⟩
  -- There are two reactions, and one subscription.
  cases once.length_eq

end Fulfilment.Rehearsal.Subscriber
