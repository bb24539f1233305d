import Fulfilment.Document.Value
import Fulfilment.Failure

/-!
# Identifiers

An identifier names an execution or a registered definition. New identifiers are numbered from a
counter, so that no two of them are equal.

## Main definitions

* `Identifier` - a text that is not empty
* `Identifier.ofText`, `Identifier.ofValue` - the identifier that a text or a value is
* `Identifier.numbered` - the identifier of a number

## Main results

* `Identifier.length_numbered` - the number takes 32 places
-/

namespace Fulfilment

/-- A text that names something. -/
structure Identifier where
  /-- The text. -/
  value : String
  /-- The text is not empty. -/
  value_ne : value ≠ ""
deriving DecidableEq, Repr

namespace Identifier

/-- The identifier that a text is. -/
def ofText (s : String) : Except Failure Identifier :=
  if h : s = "" then .error .emptyIdentifier else .ok ⟨s, h⟩

/-- The identifier that a value is. A value that does not count as given is as good as an empty
text. -/
def ofValue (v : Value) : Except Failure Identifier :=
  match v with
  | .text s => ofText s
  | v => .error (if v.truthy then .identifierNotText v.kindName else .emptyIdentifier)

/-- The text of the `n`th new identifier for things of a kind. -/
def numbered (kind : String) (n : Nat) : String := kind ++ "_" ++ Text.hex 32 n

theorem length_numbered (kind : String) (n : Nat) :
    (numbered kind n).length = kind.length + 33 := by
  simp [numbered, Text.hex, String.length_append, Text.length_fixedDigits]
  decide

end Identifier

end Fulfilment
