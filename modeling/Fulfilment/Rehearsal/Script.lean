import Fulfilment.Bus
import Fulfilment.Document.Value
import Fulfilment.Processing.Pipeline

/-!
# Scripted steps and handlers

Steps and handlers that do as they are told, for rehearsing pipelines and the event bus.

## Main definitions

* `Rehearsal.ScriptedStep` - a step that notes its name, and may warn and fail
* `Rehearsal.Subscriber` - a handler that notes what it hears, and may subscribe others and fail
-/

namespace Fulfilment.Rehearsal

/-- A step that notes its name, and may warn and fail. -/
structure ScriptedStep where
  /-- The name of the step. -/
  name : String
  /-- What the failure of the step means. -/
  kind : StepKind
  /-- The warning of the step. -/
  warning : Option String := none
  /-- The failure of the step. -/
  failure : Option Failure := none
deriving Repr, Inhabited

/-- Noting a name has no reply. -/
abbrev noReply : String → Type := fun _ => Unit

/-- The step, whose call is the noting of its name. -/
def ScriptedStep.step (s : ScriptedStep) : Step String noReply where
  name := s.name
  kind := s.kind
  action r := .call s.name fun _ =>
    .done ({ r with warnings := r.warnings ++ s.warning.toList }, s.failure)

/-- What scripted steps leave behind, and the names that they have noted. -/
def runScript (steps : List ScriptedStep) (r : Run) : StepResult × List String :=
  (Pipeline.run (steps.map ScriptedStep.step) r).run (fun name names => ((), names ++ [name])) []

/-- A handler that notes what it hears, and may subscribe others and fail. -/
inductive Subscriber where
  /-- The event to subscribe to, the mark of the handler, its failure, and the others. -/
  | mk (event : String) (mark : Value) (failure : Option Failure) (others : List Subscriber)
deriving Inhabited

namespace Subscriber

/-- The event to subscribe to. -/
def event : Subscriber → String
  | mk event _ _ _ => event

/-- Subscribes a handler to its event. -/
def subscribe (h : Subscriber) (b : Bus Subscriber) : Bus Subscriber := b.subscribe h.event h

/-- What a handler does with an event of a name and a number. -/
def react (name : String) (n : Value) : Bus.Reaction Subscriber (List Value)
  | mk _ mark failure others, (notes, bus) =>
    ((notes ++ [.list [mark, .text name, n]], others.foldl (fun b h => h.subscribe b) bus), failure)

end Subscriber

end Fulfilment.Rehearsal
