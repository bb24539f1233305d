import Fulfilment.Document.Enumeration

/-!
# Order statuses

The states that an order moves through. An order is pending until it is processed, and it is
cancelled for good.

## Main definitions

* `Status` - the states
* `Status.isTerminal` - whether processing refuses an order in this state
-/

namespace Fulfilment

/-- The states that an order moves through. -/
inductive Status where
  /-- The order waits to be processed. -/
  | pending
  /-- The order has been found fit to process. -/
  | validated
  /-- The order is being processed. -/
  | processing
  /-- The order has been processed. -/
  | completed
  /-- The order has been called off. -/
  | cancelled
deriving DecidableEq, Repr, Inhabited

namespace Status

/-- All states, in their order. -/
def all : List Status := [pending, validated, processing, completed, cancelled]

/-- The word for a state. -/
def word : Status → String
  | pending => "pending"
  | validated => "validated"
  | processing => "processing"
  | completed => "completed"
  | cancelled => "cancelled"

/-- The words for the states. -/
def words : List (String × Status) := all.map fun s => (s.word, s)

/-- The state that a value names. -/
def ofValue : Value → Except Failure Status := Value.memberOf "OrderStatus" words

/-- The failure of a value that names no state. -/
def refused {α : Type} (v : Value) : Except Failure α := .error (.notMember v.literal "OrderStatus")

/-- Whether processing refuses an order in this state. -/
def isTerminal (s : Status) : Bool := s = cancelled

@[simp] theorem get?_words_word (s : Status) : Catalog.get? words s.word = some s := by
  cases s <;> rfl

theorem word_injective {s t : Status} (h : s.word = t.word) : s = t := by
  have := get?_words_word t
  rw [← h, get?_words_word] at this
  exact Option.some.inj this

end Status

end Fulfilment
