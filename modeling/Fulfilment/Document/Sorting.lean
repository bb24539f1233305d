import Fulfilment.Document.Value
import Fulfilment.Failure

/-!
# Sorting values

Numbers are ordered by what they denote, texts by their characters, and lists by the first of their
items that differ. Other values have no order, and neither have values of different kinds. Values
are sorted by taking those at the beginning that are in order, or in reverse order, and inserting
the others one by one; the first two without an order that meet on the way are the failure.

## Main definitions

* `Value.precedes` - whether a value comes before another
* `Value.sorted` - values in order, where equal ones keep their places

## Main results

* `Value.precedes_number` - the order of numbers of any kind
* `Value.precedes_text`, `Value.precedes_int` - the order of texts and of whole numbers
-/

namespace Fulfilment.Value

/-- Whether a number is less than another. -/
def numberPrecedes : Int ⊕ Binary64 → Int ⊕ Binary64 → Bool
  | .inl m, .inl n => m < n
  | .inl m, .inr y => Binary64.intLt m y
  | .inr x, .inl n => x.ltInt n
  | .inr x, .inr y => x.lt y

/-- Whether a value that holds no other values comes before another. -/
def leafPrecedes (v w : Value) : Except Failure Bool :=
  match v, w with
  | .text s, .text t => .ok (s < t)
  | v, w =>
    match v.number?, w.number? with
    | some m, some n => .ok (numberPrecedes m n)
    | _, _ => .error (.unordered "<" v.kindName w.kindName)

mutual

/-- Whether a value comes before another. -/
def precedes : Value → Value → Except Failure Bool
  | .list xs, .list ys => itemsPrecede xs ys
  | v, w => leafPrecedes v w

/-- Whether a list comes before another, which their first items that differ tell. -/
def itemsPrecede : List Value → List Value → Except Failure Bool
  | [], ys => .ok (!ys.isEmpty)
  | _ :: _, [] => .ok false
  | x :: xs, y :: ys => if same x y then itemsPrecede xs ys else precedes x y

end

/-- How many values go on in order after a value, or in reverse order. -/
def runLength (isReversed : Bool) (last : Value) : List Value → Except Failure Nat
  | [] => .ok 0
  | v :: vs => do
    if (← v.precedes last) = isReversed then return (← runLength isReversed v vs) + 1
    else return 0

/-- The place of a value among sorted ones, from one place up to another, found by halving the
distance at most so many times. -/
def placeIn (vs : List Value) (v : Value) : Nat → Nat → Nat → Except Failure Nat
  | 0, low, _ => .ok low
  | steps + 1, low, high => do
    if low < high then
      let middle := (low + high) / 2
      if ← v.precedes (vs.getD middle .null) then placeIn vs v steps low middle
      else placeIn vs v steps (middle + 1) high
    else return low

/-- Sorted values with a further value, after those that it does not come before. -/
def insertSorted (vs : List Value) (v : Value) : Except Failure (List Value) := do
  let place ← placeIn vs v vs.length 0 vs.length
  return vs.take place ++ v :: vs.drop place

/-- Values in order. -/
def sorted : List Value → Except Failure (List Value)
  | v :: w :: vs => do
    let isReversed ← w.precedes v
    let n := (← runLength isReversed w vs) + 2
    let run := (v :: w :: vs).take n
    ((v :: w :: vs).drop n).foldlM insertSorted (if isReversed then run.reverse else run)
  | vs => .ok vs

/-- Numbers come before one another as numbers. -/
theorem precedes_number {v w : Value} {m n : Int ⊕ Binary64} (left : v.number? = some m)
    (right : w.number? = some n) : v.precedes w = .ok (numberPrecedes m n) := by
  -- Of the kinds of values only truth values, integers and binary numbers are left.
  cases v <;> cases left <;> cases w <;> cases right <;> simp [precedes, leafPrecedes, number?]

/-- What is no number comes neither before a number nor after it. -/
theorem precedes_of_none {v w : Value} {n : Int ⊕ Binary64} (left : v.number? = none)
    (right : w.number? = some n) :
    v.precedes w = .error (.unordered "<" v.kindName w.kindName) := by
  cases v <;> cases left <;> cases w <;> cases right <;> simp [precedes, leafPrecedes, number?]

@[simp] theorem precedes_text (s t : String) :
    precedes (.text s) (.text t) = .ok (decide (s < t)) := by
  simp [precedes, leafPrecedes]

@[simp] theorem precedes_int (m n : Int) : precedes (.int m) (.int n) = .ok (decide (m < n)) :=
  precedes_number (m := .inl m) (n := .inl n) rfl rfl

@[simp] theorem sorted_nil : sorted [] = .ok [] := rfl

@[simp] theorem sorted_singleton (v : Value) : sorted [v] = .ok [v] := rfl

end Fulfilment.Value
