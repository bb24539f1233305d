import Fulfilment.Document.Literal
import Fulfilment.Failure

/-!
# Objects from entries

Reading any value as the members of an object. An object has its own members; a list, or a text as
the list of its characters, is read as a list of pairs, of which the last under each name counts.

## Main definitions

* `Value.asName`, `Value.parts` - a value as a name, and its parts
* `Value.identity`, `Value.entryOf` - what is found under the name that a value is
* `Value.members` - the members that a value stands for
* `Value.member` - a member that has to be there
-/

namespace Fulfilment.Value

/-- A value as the name of a member. Lists and objects cannot be names. -/
def asName (v : Value) : Except Failure Name :=
  match v.name? with
  | some n => .ok n
  | none => .error (.unhashable v.kindName)

/-- What tells the name that a value is from others. -/
def identity (v : Value) : Except Failure Name.Identity := v.asName.map Name.identity

/-- The entry under the name that a value is, where the names are texts. -/
def entryOf {α : Type} (c : Catalog String α) (v : Value) : Except Failure (Option α) :=
  match v with
  | .text s => .ok (c.get? s)
  | v => v.asName.map fun _ => none

/-- The parts of a value: the items of a list, the characters of a text, or the names of an
object. -/
def parts? : Value → Option (List Value)
  | .list xs => some xs
  | .text s => some (s.toList.map fun c => .text (String.ofList [c]))
  | .object fs => some (fs.map fun e => ofName e.1)
  | _ => none

/-- The parts of a value, where a value without parts is a failure. -/
def parts (v : Value) : Except Failure (List Value) :=
  match v.parts? with
  | some vs => .ok vs
  | none => .error (.notIterable v.kindName)

/-- The member that the entry at a position stands for. -/
def entry (position : Nat) (v : Value) : Except Failure (Name × Value) :=
  match v.parts? with
  | none => .error (.entryNotPair position)
  -- A text of two characters is a pair as well.
  | some [k, w] => return (← asName k, w)
  | some parts => .error (.entryLength position parts.length)

/-- The members that entries from a position on stand for, entered into those before them. -/
def entriesFrom : Nat → Fields → List Value → Except Failure Fields
  | _, fs, [] => .ok fs
  | i, fs, v :: vs => do
    let (k, w) ← entry i v
    entriesFrom (i + 1) (fs.put k w) vs

/-- The members that a value stands for. -/
def members (v : Value) : Except Failure Fields :=
  match v with
  | .object fs => .ok fs
  | v => do entriesFrom 0 [] (← v.parts)

/-- The members that a value stands for; null and the other values that do not count as given stand
for no members. -/
def membersOrNone (v : Value) : Except Failure Fields :=
  if v.truthy then v.members else .ok []

/-- The member of a name, which has to be there. -/
def member (fs : Fields) (name : String) : Except Failure Value :=
  match fs.get? name with
  | some v => .ok v
  | none => .error (.raised .key name)

@[simp] theorem identity_text (s : String) : identity (.text s) = .ok (.text s) := rfl

@[simp] theorem entryOf_text {α : Type} (c : Catalog String α) (s : String) :
    entryOf c (.text s) = .ok (c.get? s) := rfl

@[simp] theorem members_object (fs : Fields) : members (.object fs) = .ok fs := rfl

@[simp] theorem membersOrNone_object (fs : Fields) : membersOrNone (.object fs) = .ok fs := by
  cases fs <;> rfl

end Fulfilment.Value
