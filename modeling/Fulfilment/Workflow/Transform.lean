import Fulfilment.Workflow.Condition

/-!
# Paths and transforms

A path leads from an object to a value inside it, by the names of the members to follow; it is
written with points between the names. A transform describes new values for a context: each is
copied from a path in the context, written with a leading dollar sign, or given literally. All
values are taken from the context as it was before.

## Main definitions

* `Path.resolve` - the value at the end of a path
* `Transform.apply` - the values that a transform describes
-/

namespace Fulfilment

namespace Path

/-- The member of a name, if the value is an object that has it. -/
def step? (v : Value) (name : String) : Option Value := v.fields?.bind (Catalog.get? · name)

/-- The value at the end of a path, if every step leads on. -/
def walk? (v : Value) : List String → Option Value
  | [] => some v
  | name :: names => (step? v name).bind (walk? · names)

/-- The value that a written path leads to, and null if it leads nowhere. -/
def resolve (context : Context) (path : String) : Value :=
  (walk? (.object context) (Text.split '.' path)).getD .null

theorem walk?_append (v : Value) (ps qs : List String) :
    walk? v (ps ++ qs) = (walk? v ps).bind (walk? · qs) := by
  induction ps generalizing v with
  | nil => rfl
  | cons p ps ih =>
    cases h : step? v p with
    | none => simp [walk?, h]
    | some w => simp [walk?, h, ih]

end Path

namespace Transform

/-- The value that a source describes in a context. -/
def source (context : Context) (v : Value) : Value :=
  match v with
  | .text s =>
    match s.toList with
    | '$' :: path => Path.resolve context (String.ofList path)
    | _ => .text s
  | v => v

/-- The values that the members of a transform describe. -/
def values (spec : Value.Fields) (context : Context) : Value.Fields :=
  spec.map fun e => (e.1, source context e.2)

/-- The values that a transform describes. -/
def apply (spec : Value) (context : Context) : Except Failure Value.Fields :=
  match spec with
  | .object fs => .ok (values fs context)
  | v => .error (.transformNotObject v.kindName)

theorem get?_values (spec : Value.Fields) (context : Context) (name : Name) :
    Catalog.get? (values spec context) name = (spec.get? name).map (source context) := by
  induction spec with
  | nil => rfl
  | cons e rest ih =>
    obtain ⟨k, v⟩ := e
    simp only [values] at ih
    by_cases h : (k == name) = true <;> simp [values, Catalog.get?, h, ih]

end Transform

end Fulfilment
