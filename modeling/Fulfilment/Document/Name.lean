import Fulfilment.Number.Numeral

/-!
# Names

The members of an object are named. A name is a text as a rule, but null, a truth value or a number
may be one too. A name keeps the form in which it was given, and yet two forms may be the same name:
numbers are, if they denote the same number, and truth values count as numbers here.

## Main definitions

* `Name` - the names, in the form in which they are given
* `Name.identity` - what tells a name from others

## Main results

* `Name.beq_iff` - two forms are the same name if their identities are equal
-/

namespace Fulfilment

/-- The name of a member of an object, in the form in which it is given. -/
inductive Name where
  /-- A text. -/
  | text (s : String)
  /-- The absent value. -/
  | null
  /-- A truth value. -/
  | bool (b : Bool)
  /-- A whole number. -/
  | int (n : Int)
  /-- A binary floating point number. -/
  | real (x : Binary64)
deriving Repr, Inhabited

namespace Name

/-- A text is a name. -/
instance : Coe String Name := ⟨text⟩

/-- What tells a name from others. -/
inductive Identity where
  /-- A text. -/
  | text (s : String)
  /-- The absent value. -/
  | null
  /-- A finite number, in units of the smallest positive binary one. -/
  | number (units : Int)
  /-- An infinity. -/
  | infinite (negative : Bool)
  /-- Not a number. -/
  | nan
deriving DecidableEq, Repr, Inhabited

/-- What tells a name from others. -/
def identity : Name → Identity
  | text s => .text s
  | null => .null
  | bool b => .number (if b then Binary64.unitsOfOne else 0)
  | int n => .number (n * Binary64.unitsOfOne)
  | real (.finite s u) => .number (Binary64.signed s u)
  | real (.infinite s) => .infinite s
  | real .nan => .nan

/-- Two forms are the same name if they have the same identity. -/
instance : BEq Name := ⟨fun a b => a.identity = b.identity⟩

theorem beq_iff {a b : Name} : (a == b) = true ↔ a.identity = b.identity :=
  decide_eq_true_iff

instance : EquivBEq Name where
  rfl := beq_iff.mpr rfl
  symm h := beq_iff.mpr (beq_iff.mp h).symm
  trans h h' := beq_iff.mpr ((beq_iff.mp h).trans (beq_iff.mp h'))

@[simp] theorem text_beq_text (s t : String) : (text s == text t) = (s == t) := by
  rw [Bool.eq_iff_iff, beq_iff, beq_iff_eq]
  simp [identity]

/-- The name as the name of a member of a written document, where all names are texts. What is not a
finite number is written out. -/
def written : Name → String
  | text s => s
  | null => "null"
  | bool b => if b then "true" else "false"
  | int n => if n < 0 then "-" ++ toString n.natAbs else toString n.natAbs
  | real .nan => "NaN"
  | real (.infinite s) => if s then "-Infinity" else "Infinity"
  | real x => x.text

end Name

end Fulfilment
