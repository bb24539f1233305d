import Fulfilment.Document.Literal
import Fulfilment.Failure

/-!
# Enumerations in documents

The members of an enumeration are written as words.

## Main definitions

* `Value.memberOf` - the member of an enumeration that a value names
-/

namespace Fulfilment.Value

/-- The member of an enumeration that a value names. -/
def memberOf {α : Type} (enumeration : String) (words : List (String × α)) (v : Value) :
    Except Failure α :=
  match v.text?.bind (Catalog.get? words) with
  | some a => .ok a
  | none => .error (.notMember v.literal enumeration)

end Fulfilment.Value
