import Fulfilment.Catalog
import Fulfilment.Failure

/-!
# The event bus

Handlers subscribe to the events of a name, or to every event under the name `*`. A publication
reaches the handlers that are subscribed when it begins: first those of the name, then those of
every event, each group in the order of subscription. A handler may subscribe others while it
reacts, and they are reached from the next publication on. A handler that fails stops nothing.

## Main definitions

* `Bus` - handlers by the names that they are subscribed to
* `Bus.subscribe` - a further subscription
* `Bus.audience` - the handlers that a publication reaches
* `Bus.publish` - a publication

## Main results

* `Bus.subscribed_subscribe`, `Bus.audience_subscribe_of_ne` - what a further subscription changes
* `Bus.audience_empty` - nobody is reached before the first subscription
-/

namespace Fulfilment

/-- Handlers of events by the names that they are subscribed to. -/
structure Bus (η : Type) where
  /-- The handlers of each name, in the order of subscription. -/
  handlers : Catalog String (List η) := []
deriving Repr, Inhabited

namespace Bus

variable {η σ : Type}

/-- The name under which every event is heard. -/
def everyEvent : String := "*"

/-- The handlers that are subscribed to a name. -/
def subscribed (b : Bus η) (name : String) : List η := (b.handlers.get? name).getD []

/-- Subscribes a handler to a name. -/
def subscribe (b : Bus η) (name : String) (h : η) : Bus η :=
  ⟨b.handlers.put name (b.subscribed name ++ [h])⟩

/-- The handlers that a publication under a name reaches, in order. -/
def audience (b : Bus η) (name : String) : List η := b.subscribed name ++ b.subscribed everyEvent

/-- What a handler does: it may change the state and the bus, and it may fail. -/
abbrev Reaction (η σ : Type) := η → σ × Bus η → (σ × Bus η) × Option Failure

/-- Publishes an event to the handlers that are subscribed now. -/
def publish (react : Reaction η σ) (name : String) (s : σ) (b : Bus η) : σ × Bus η :=
  (b.audience name).foldl (fun acc h => (react h acc).1) (s, b)

theorem subscribed_subscribe (b : Bus η) (name other : String) (h : η) :
    (b.subscribe name h).subscribed other =
      if name = other then b.subscribed name ++ [h] else b.subscribed other := by
  by_cases e : name = other <;> simp [subscribe, subscribed, Catalog.get?_put, e]

theorem audience_subscribe_of_ne (b : Bus η) {name other : String} (h : η) (hne : name ≠ other)
    (hall : name ≠ everyEvent) : (b.subscribe name h).audience other = b.audience other := by
  simp [audience, subscribed_subscribe, hne, hall]

@[simp] theorem audience_empty (name : String) : (({} : Bus η)).audience name = [] := rfl

@[simp] theorem publish_empty (react : Reaction η σ) (name : String) (s : σ) :
    publish react name s {} = (s, {}) := rfl

end Bus

end Fulfilment
