import Fulfilment.Document.Literal
import Fulfilment.Schema.Scalar

/-!
# Checking lists and objects

The checks of values that hold other values. A member of an object may be given under its key or,
where the object allows it, under a second name; the key has precedence, and an issue is placed
under the one that was used. Members with other names are ignored. The members of a free object may
have any names, as long as they are texts.

## Main definitions

* `Schema.listOf`, `Schema.object`, `Schema.objectOf` - lists and free objects
* `Schema.model` - an object with known members
* `Schema.required`, `Schema.optional` - the members of such an object

## Main results

* `Schema.object_eq_accepted_iff` - a free object is one whose names are texts
-/

namespace Fulfilment.Schema

open Checked

variable {α : Type}

/-- The items of a list from position `i` on. -/
def itemsFrom (check : Value → Checked α) : Nat → List Value → Checked (List α)
  | _, [] => .accepted []
  | i, v :: vs => List.cons <$> (check v).under (.index i) <*> itemsFrom check (i + 1) vs

/-- A list of items of one kind. -/
def listOf (check : Value → Checked α) : Value → Checked (List α)
  | .list vs => itemsFrom check 0 vs
  | _ => refuse .notList

/-- The step to the member of a name. A name that counts as a whole number is told as one, unless it
is negative or too large; any other that is no text is told in the form in which it is shown. -/
def Segment.ofName : Name → Segment
  | .text s => .key s
  | .bool b => .index (if b then 1 else 0)
  | .int n => if 0 ≤ n && isWord n then .index n.toNat else .key (Value.nameLiteral (.int n))
  | k => .key (Value.nameLiteral k)

/-- The name of a member of a free object, which has to be a text. -/
def memberName : Name → Checked String
  | .text s => .accepted s
  | k => ((refuse .notText).under (.key "[key]")).under (.ofName k)

/-- The members of an object, all of one kind, under their names. -/
def membersOf (check : Value → Checked α) : Value.Fields → Checked (Catalog String α)
  | [] => .accepted []
  | (k, v) :: rest =>
    (fun s a as => (s, a) :: as) <$> memberName k <*> (check v).under (.ofName k)
      <*> membersOf check rest

/-- Any object whose names are texts. -/
def object : Value → Checked Value.Fields
  | .object fs => (fun _ => fs) <$> membersOf .accepted fs
  | _ => refuse .notObject

/-- An object whose members are all of one kind. -/
def objectOf (check : Value → Checked α) : Value → Checked (Catalog String α)
  | .object fs => membersOf check fs
  | _ => refuse .notObject

/-- An object that stands for a `name`, from its members. -/
def model (name : String) (check : Value.Fields → Checked α) : Value → Checked α
  | .object fs => check fs
  | _ => refuse (.notModel name)

/-- The keys under which a member may be given, the first of them by preference. -/
structure Key where
  /-- The preferred key. -/
  primary : String
  /-- The other name of the member. -/
  secondary : String := primary
deriving Repr

/-- A member without a second name. -/
instance : Coe String Key := ⟨fun s => { primary := s }⟩

/-- The member under a key, with the name that it was given under. -/
def Key.find? (k : Key) (fs : Value.Fields) : Option (String × Value) :=
  match fs.get? k.primary with
  | some v => some (k.primary, v)
  | none => (fs.get? k.secondary).map (k.secondary, ·)

/-- A member that has to be there. -/
def required (fs : Value.Fields) (k : Key) (check : Value → Checked α) : Checked α :=
  match k.find? fs with
  | some (name, v) => (check v).under (.key name)
  | none => .refused [⟨[.key k.primary], .missing⟩]

/-- A member with a default. -/
def optional (fs : Value.Fields) (k : Key) (default : α) (check : Value → Checked α) : Checked α :=
  match k.find? fs with
  | some (name, v) => (check v).under (.key name)
  | none => .accepted default

/-- A member that may be null or absent. -/
def perhaps (fs : Value.Fields) (k : Key) (check : Value → Checked α) : Checked (Option α) :=
  optional fs k none (nullable check)

/-! ### Free objects -/

/-- Whether all names are texts. -/
def NamedByTexts (fs : Value.Fields) : Prop := ∀ e ∈ fs, ∃ s, e.1 = .text s

theorem memberName_eq_accepted_iff {k : Name} {s : String} :
    memberName k = .accepted s ↔ k = .text s := by
  cases k <;> simp [memberName, refuse, under]

theorem exists_membersOf_accepted_iff {fs : Value.Fields} :
    (∃ as, membersOf .accepted fs = .accepted as) ↔ NamedByTexts fs := by
  induction fs with
  | nil => simp [membersOf, NamedByTexts]
  | cons e rest ih =>
    have split : NamedByTexts (e :: rest) ↔ (∃ s, e.1 = .text s) ∧ NamedByTexts rest :=
      List.forall_mem_cons
    rw [split, ← ih]
    simp only [membersOf, seq_eq_accepted_iff, map_eq_accepted_iff, memberName_eq_accepted_iff]
    constructor
    · rintro ⟨_, _, as, ⟨_, a, ⟨s, named, rfl⟩, -, rfl⟩, there, -⟩
      exact ⟨⟨s, named⟩, as, there⟩
    · rintro ⟨⟨s, named⟩, as, there⟩
      exact ⟨_, _, as, ⟨_, e.2, ⟨s, named, rfl⟩, rfl, rfl⟩, there, rfl⟩

/-- A free object is accepted as it is if all names are texts. -/
theorem object_eq_accepted_iff {v : Value} {fs : Value.Fields} :
    object v = .accepted fs ↔ v = .object fs ∧ NamedByTexts fs := by
  cases v with
  | object gs =>
    rw [object, map_eq_accepted_iff]
    constructor
    · rintro ⟨as, there, rfl⟩
      exact ⟨rfl, exists_membersOf_accepted_iff.mp ⟨as, there⟩⟩
    · rintro ⟨⟨⟩, named⟩
      obtain ⟨as, there⟩ := exists_membersOf_accepted_iff.mpr named
      exact ⟨as, there, rfl⟩
  | _ => simp [object, refuse]

end Fulfilment.Schema
