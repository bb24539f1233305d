import Fulfilment.Schema.Issue

/-!
# Checked results

The result of checking a document: the value it stands for, or everything that is wrong with it.
Checks of several parts are combined as an applicative functor, so that a defect of one part does
not hide those of the others.

## Main definitions

* `Schema.Checked` - a value, or a list of issues
* `Schema.Checked.under` - the result of checking a part, as a result for the whole

## Main results

* `Schema.Checked.map_eq_accepted_iff`, `Schema.Checked.seq_eq_accepted_iff` - the whole is accepted
  when every part is
-/

namespace Fulfilment.Schema

/-- The result of a check. -/
inductive Checked (α : Type) where
  /-- The document stands for this value. -/
  | accepted (value : α)
  /-- The document has these issues. -/
  | refused (issues : List Issue)
deriving Repr

namespace Checked

variable {α β : Type}

/-- Refuses a value for one defect. -/
def refuse (d : Defect) : Checked α := .refused [⟨[], d⟩]

/-- Places every issue of a part under the step that leads from the whole to it. -/
def under (s : Segment) : Checked α → Checked α
  | .accepted a => .accepted a
  | .refused is => .refused (is.map fun i => { i with place := s :: i.place })

/-- Applies a function that is itself the result of a check, and keeps the issues of both. -/
def seq : Checked (α → β) → Checked α → Checked β
  | .accepted f, .accepted a => .accepted (f a)
  | .accepted _, .refused is => .refused is
  | .refused is, .accepted _ => .refused is
  | .refused is, .refused js => .refused (is ++ js)

/-- Applies a function to an accepted value. -/
def map (f : α → β) : Checked α → Checked β
  | .accepted a => .accepted (f a)
  | .refused is => .refused is

instance : Functor Checked := ⟨map, map ∘ Function.const _⟩

instance : Applicative Checked where
  pure := accepted
  seq f x := seq f (x ())

/-- Checks a further condition on an accepted value. -/
def andThen (x : Checked α) (f : α → Checked β) : Checked β :=
  match x with
  | .accepted a => f a
  | .refused is => .refused is

@[simp] theorem pure_eq (a : α) : (pure a : Checked α) = .accepted a := rfl

@[simp] theorem map_accepted (f : α → β) (a : α) : f <$> accepted a = .accepted (f a) := rfl

@[simp] theorem map_refused (f : α → β) (is : List Issue) :
    f <$> (refused is : Checked α) = .refused is := rfl

@[simp] theorem accepted_seq_accepted (f : α → β) (a : α) :
    accepted f <*> accepted a = .accepted (f a) := rfl

theorem map_eq_accepted_iff {f : α → β} {x : Checked α} {b : β} :
    f <$> x = .accepted b ↔ ∃ a, x = .accepted a ∧ f a = b := by
  cases x <;> simp

theorem seq_eq_accepted_iff {f : Checked (α → β)} {x : Checked α} {b : β} :
    f <*> x = .accepted b ↔ ∃ g a, f = .accepted g ∧ x = .accepted a ∧ g a = b := by
  cases f <;> cases x <;> simp [Seq.seq, seq]

@[simp] theorem under_accepted (s : Segment) (a : α) :
    (accepted a).under s = .accepted a := rfl

theorem under_eq_accepted_iff {s : Segment} {x : Checked α} {a : α} :
    x.under s = .accepted a ↔ x = .accepted a := by
  cases x <;> simp [under]

end Checked

end Fulfilment.Schema
