import Fulfilment.Catalog
import Fulfilment.Document.Name
import Fulfilment.Time.Timestamp

/-!
# Document values

The values that documents, configurations and workflow contexts are made of. Whole numbers are kept
apart from binary floating point numbers, and the members of an object keep their order. Besides
the values of a written document there are two that only arise inside: points in time, and handles
of live objects, which can be passed on but neither copied nor looked into.

## Main definitions

* `Value` - the values
* `Value.Fields` - the members of an object
* `Value.truthy` - whether a value counts as given
* `Value.same` - equality of values: numbers by what they denote, objects without regard to order
-/

namespace Fulfilment

/-- A document value. -/
inductive Value where
  /-- The absent value. -/
  | null
  /-- A truth value. -/
  | bool (b : Bool)
  /-- A whole number of any size. -/
  | int (n : Int)
  /-- A binary floating point number. -/
  | real (x : Binary64)
  /-- A text. -/
  | text (s : String)
  /-- A list of values. -/
  | list (items : List Value)
  /-- An object, whose members are named. -/
  | object (fields : List (Name × Value))
  /-- A point in time. -/
  | timestamp (t : Timestamp)
  /-- A live object. -/
  | handle (name : String)
deriving Repr, Inhabited

namespace Value

/-- A text is a value. -/
instance : Coe String Value := ⟨text⟩

/-- The members of an object, in order. -/
abbrev Fields := Catalog Name Value

/-- Whether the value counts as given: it is not null, false, zero or empty. -/
def truthy : Value → Bool
  | .null => false
  | .bool b => b
  | .int n => n ≠ 0
  | .real x => !x.isZero
  | .text s => s ≠ ""
  | .list xs => !xs.isEmpty
  | .object fs => !fs.isEmpty
  | .timestamp _ => true
  | .handle _ => true

/-- The name of the kind of a value, as messages give it. -/
def kindName : Value → String
  | .null => "NoneType"
  | .bool _ => "bool"
  | .int _ => "int"
  | .real _ => "float"
  | .text _ => "str"
  | .list _ => "list"
  | .object _ => "dict"
  | .timestamp _ => "datetime"
  | .handle _ => "object"

/-- The members of an object. -/
def fields? : Value → Option Fields
  | .object fs => some fs
  | _ => none

/-- The text that the value is. -/
def text? : Value → Option String
  | .text s => some s
  | _ => none

/-- A text, or null when there is none. -/
def ofText? : Option String → Value
  | some s => .text s
  | none => .null

/-- A point in time, or null when there is none. -/
def ofTimestamp? : Option Timestamp → Value
  | some t => .timestamp t
  | none => .null

/-- A name as a value. -/
def ofName : Name → Value
  | .text s => .text s
  | .null => .null
  | .bool b => .bool b
  | .int n => .int n
  | .real x => .real x

/-- The name that a value is. Lists and objects are none. -/
def name? : Value → Option Name
  | .text s => some (.text s)
  | .null => some .null
  | .bool b => some (.bool b)
  | .int n => some (.int n)
  | .real x => some (.real x)
  | .timestamp t => some (.text t.iso)
  | .handle name => some (.text name)
  | .list _ | .object _ => none

/-- A number as an integer or a binary floating point number. Truth values count as numbers. -/
def number? : Value → Option (Int ⊕ Binary64)
  | .bool b => some (.inl (if b then 1 else 0))
  | .int n => some (.inl n)
  | .real x => some (.inr x)
  | _ => none

/-- Whether two numbers are equal. -/
def sameNumber : Int ⊕ Binary64 → Int ⊕ Binary64 → Bool
  | .inl m, .inl n => m = n
  | .inl m, .inr y => y.eqInt m
  | .inr x, .inl n => x.eqInt n
  | .inr x, .inr y => x.eq y

/-- Whether two values that hold no other values are equal. -/
def sameLeaf (v w : Value) : Bool :=
  match v, w with
  | .null, .null => true
  | .text s, .text t => s = t
  | .timestamp s, .timestamp t => s = t
  | .handle s, .handle t => s = t
  | v, w =>
    match v.number?, w.number? with
    | some m, some n => sameNumber m n
    | _, _ => false

mutual

/-- Whether two values are equal. -/
def same : Value → Value → Bool
  | .list xs, .list ys => sameItems xs ys
  | .object fs, .object gs => fs.length = gs.length && sameFields fs gs
  | v, w => sameLeaf v w

/-- Whether two lists hold equal values. -/
def sameItems : List Value → List Value → Bool
  | [], [] => true
  | x :: xs, y :: ys => same x y && sameItems xs ys
  | _, _ => false

/-- Whether each member of the first object is equal to the member of that name of the second. -/
def sameFields : List (Name × Value) → List (Name × Value) → Bool
  | [], _ => true
  | (k, v) :: rest, gs =>
    (match Catalog.get? gs k with
      | some w => same v w
      | none => false) && sameFields rest gs

end

@[simp] theorem truthy_object (fs : Fields) : truthy (.object fs) = !fs.isEmpty := rfl

@[simp] theorem truthy_null : truthy .null = false := rfl

@[simp] theorem truthy_bool (b : Bool) : truthy (.bool b) = b := rfl

/-- A list whose items are texts is the list of these texts. -/
theorem exists_eq_map_text {vs : List Value} (texts : ∀ v ∈ vs, ∃ s, v = text s) :
    ∃ ss : List String, vs = ss.map text := by
  induction vs with
  | nil => exact ⟨[], rfl⟩
  | cons v vs ih =>
    obtain ⟨ss, rfl⟩ := ih fun w mem => texts w (List.mem_cons_of_mem v mem)
    obtain ⟨s, rfl⟩ := texts v List.mem_cons_self
    exact ⟨s :: ss, rfl⟩

@[simp] theorem name?_ofName (n : Name) : (ofName n).name? = some n := by cases n <;> rfl

end Value

end Fulfilment
