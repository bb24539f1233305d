import Fulfilment.Document.Value
import Fulfilment.Failure

/-!
# Comparing values with integers

Numbers of any kind are compared exactly, and truth values count as numbers. Values of other kinds
have no order.

## Main definitions

* `Value.atMost`, `Value.atLeast` - whether a value is a number up to or from an integer on

## Main results

* `Value.atMost_int`, `Value.atLeast_int` - whole numbers are compared as integers
-/

namespace Fulfilment.Value

/-- Whether a number is at most an integer. -/
def numberAtMost : Int ⊕ Binary64 → Int → Bool
  | .inl m, n => m ≤ n
  | .inr x, n => x.ltInt n || x.eqInt n

/-- Whether a number is at least an integer. -/
def numberAtLeast : Int ⊕ Binary64 → Int → Bool
  | .inl m, n => n ≤ m
  | .inr x, n => Binary64.intLt n x || x.eqInt n

/-- Whether a value is at most an integer. -/
def atMost (v : Value) (n : Int) : Except Failure Bool :=
  match v.number? with
  | some m => .ok (numberAtMost m n)
  | none => .error (.unordered "<=" v.kindName "int")

/-- Whether a value is at least an integer. -/
def atLeast (v : Value) (n : Int) : Except Failure Bool :=
  match v.number? with
  | some m => .ok (numberAtLeast m n)
  | none => .error (.unordered ">=" v.kindName "int")

@[simp] theorem atMost_int (m n : Int) : atMost (.int m) n = .ok (decide (m ≤ n)) := rfl

@[simp] theorem atLeast_int (m n : Int) : atLeast (.int m) n = .ok (decide (n ≤ m)) := rfl

end Fulfilment.Value
