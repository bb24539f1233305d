import Fulfilment.Proofs.Adjusting
import Mathlib.Algebra.Order.BigOperators.Group.List
import Mathlib.Algebra.Ring.Int.Defs

/-!
# What orders take out of the stock

Orders are taken out of the stock one after the other, line by line, and down to nothing at most.
If there is enough for each line by itself, then a product of which there is nothing is not ordered,
and what is left of any other is the difference between what there was and what the orders name, or
nothing. It is the difference if and only if there was enough for each order as a whole.

## Main definitions

* `InStock` - how many pieces there are of a product
* `Line.names`, `Line.pieces`, `booked` - what lines order of a product
* `takeOutAll` - the products after some orders are taken out
* `InTurn` - what holds of orders one after the other, with the products that are left for each
* `EachCovered`, `AllCovered` - whether there is enough for each line by itself, and for all lines
  of an order together

## Main results

* `inStock_takeOuts` - what some lines leave of a product
* `EachCovered.allCovered` - lines that name different products are covered together
* `InTurn.inStock` - what orders leave of a product
* `InTurn.accounts_iff` - whether the stock accounts for all that is taken out
-/

namespace Fulfilment

/-- Whether there are so many pieces of a product. -/
def InStock (ps : Products) (key : Name.Identity) (m : Int) : Prop :=
  ∃ p, ps.get? key = some p ∧ p.stock = .count m

namespace Line

/-- Whether a line names a product. -/
def names (key : Name.Identity) (l : Line) : Bool :=
  match l.productId.identity with
  | .ok named => named == key
  | .error _ => false

/-- How many pieces of a product a line orders. -/
def pieces (key : Name.Identity) (l : Line) : Int :=
  match l.quantity with
  | .count n => if l.names key then n else 0
  | _ => 0

end Line

/-- How many pieces of a product some lines order together. -/
def booked (key : Name.Identity) (ls : List Line) : Int := (ls.map (Line.pieces key)).sum

/-- The products after the lines of some orders are taken out, one order after the other. -/
def takeOutAll (ps : Products) (orders : List (List Line)) : Products :=
  orders.foldl (fun ps ls => ls.foldl takeOut ps) ps

/-- Whether something holds of each order in turn, with the products that the orders before it have
left. -/
def InTurn (P : Products → List Line → Prop) : Products → List (List Line) → Prop
  | _, [] => True
  | ps, ls :: orders => P ps ls ∧ InTurn P (ls.foldl takeOut ps) orders

/-- Whether each line orders something, and by itself no more than there is. -/
def EachCovered (ps : Products) (ls : List Line) : Prop :=
  ∀ l ∈ ls, ∃ key m n, l.productId.identity = .ok key ∧ InStock ps key m ∧ l.quantity = .count n ∧
    0 < n ∧ n ≤ m

/-- Whether the lines together order no more of a product than there is. -/
def AllCovered (key : Name.Identity) (ps : Products) (ls : List Line) : Prop :=
  ∀ m, InStock ps key m → booked key ls ≤ max 0 m

variable {key : Name.Identity} {ps : Products} {l : Line} {ls : List Line}
  {orders orders' : List (List Line)} {m m' n : Int} {P Q : Products → List Line → Prop}

/-! ### Lines -/

theorem InStock.unique (h : InStock ps key m) (h' : InStock ps key m') : m = m' := by
  obtain ⟨p, there, stock⟩ := h
  obtain ⟨p', there', stock'⟩ := h'
  rw [there] at there'
  cases there'
  rw [stock] at stock'
  cases stock'
  rfl

theorem Line.names_iff : l.names key = true ↔ l.productId.identity = .ok key := by
  unfold Line.names
  cases l.productId.identity <;> simp

theorem Line.pieces_of_names (names : l.names key = true) (quantity : l.quantity = .count n) :
    l.pieces key = n := by
  simp [Line.pieces, quantity, names]

theorem Line.pieces_of_not_names (apart : l.names key = false) : l.pieces key = 0 := by
  unfold Line.pieces
  split
  · simp [apart]
  · rfl

theorem booked_cons : booked key (l :: ls) = l.pieces key + booked key ls := by
  simp [booked]

theorem booked_of_apart (apart : ∀ l ∈ ls, l.names key = false) : booked key ls = 0 := by
  induction ls with
  | nil => rfl
  | cons l ls ih =>
    have others := ih fun l' mem => apart l' (List.mem_cons_of_mem l mem)
    rw [booked_cons, Line.pieces_of_not_names (apart l List.mem_cons_self), others, Int.add_zero]

theorem booked_nonneg (key : Name.Identity)
    (positive : ∀ l ∈ ls, ∃ n, l.quantity = .count n ∧ 0 < n) : 0 ≤ booked key ls := by
  refine List.sum_nonneg fun k mem => ?_
  obtain ⟨l, among, rfl⟩ := List.mem_map.mp mem
  obtain ⟨n, quantity, positive⟩ := positive l among
  cases names : l.names key with
  | false => rw [Line.pieces_of_not_names names]
  | true =>
    rw [Line.pieces_of_names names quantity]
    omega

/-- A line takes something out of the product that it names. -/
theorem inStock_takeOut (h : InStock ps key m) (quantity : l.quantity = .count n) :
    InStock (takeOut ps l) key (if l.names key then max 0 (m - n) else m) := by
  obtain ⟨p, there, stock⟩ := h
  unfold takeOut
  by_cases names : l.names key
  · rw [if_pos names, Line.names_iff.mp names]
    refine ⟨_, by rw [Catalog.get?_modify, if_pos (beq_self_eq_true key), there]; rfl, ?_⟩
    rw [quantity, less_count stock]
  · rw [if_neg names]
    refine ⟨p, ?_, stock⟩
    split
    next other named =>
      have apart : ¬ (other == key) = true := fun same => names <| by
        rw [Line.names_iff, named, eq_of_beq same]
      rw [Catalog.get?_modify, if_neg apart, there]
    next => exact there

/-- Some lines take out of a product what they order together, down to nothing at most, and nothing
if none names it. -/
theorem inStock_takeOuts (h : InStock ps key m)
    (positive : ∀ l ∈ ls, ∃ n, l.quantity = .count n ∧ 0 < n) :
    InStock (ls.foldl takeOut ps) key
      (if ls.any (Line.names key) then max 0 (m - booked key ls) else m) := by
  induction ls generalizing ps m with
  | nil => exact h
  | cons l ls ih =>
    obtain ⟨n, quantity, something⟩ := positive l List.mem_cons_self
    have others := fun l' mem => positive l' (List.mem_cons_of_mem l mem)
    have last := ih (inStock_takeOut h quantity) others
    have rest := booked_nonneg key others
    have none (apart : ls.any (Line.names key) = false) : booked key ls = 0 :=
      booked_of_apart (by simpa using apart)
    rw [booked_cons, List.any_cons]
    cases names : l.names key with
    | false =>
      rw [Line.pieces_of_not_names names]
      simpa [names] using last
    | true =>
      -- What the first line leaves may be nothing, and then the others take nothing out.
      rw [Line.pieces_of_names names quantity]
      simp only [names, if_true, Bool.true_or] at last ⊢
      suffices same : (if ls.any (Line.names key) then max 0 (max 0 (m - n) - booked key ls)
          else max 0 (m - n)) = max 0 (m - (n + booked key ls)) from same ▸ last
      cases any : ls.any (Line.names key) with
      | false =>
        rw [none any]
        simp
      | true =>
        simp only [if_true]
        omega

/-! ### Orders -/

theorem EachCovered.of_cons (h : EachCovered ps (l :: ls)) : EachCovered ps ls :=
  fun l' mem => h l' (List.mem_cons_of_mem l mem)

theorem EachCovered.positive (h : EachCovered ps ls) :
    ∀ l ∈ ls, ∃ n, l.quantity = .count n ∧ 0 < n := by
  intro l mem
  obtain ⟨_, _, n, _, _, quantity, positive, _⟩ := h l mem
  exact ⟨n, quantity, positive⟩

/-- A line that is covered orders no more than there is. -/
theorem EachCovered.pieces_le (h : EachCovered ps ls) (inStock : InStock ps key m) (mem : l ∈ ls)
    (names : l.names key = true) : 0 < l.pieces key ∧ l.pieces key ≤ m := by
  obtain ⟨key', m', n, named, inStock', quantity, positive, le⟩ := h l mem
  rw [Line.names_iff.mp names] at named
  cases named
  rw [Line.pieces_of_names names quantity, inStock.unique inStock']
  exact ⟨positive, le⟩

/-- An order whose lines are covered names no product of which there is nothing. -/
theorem EachCovered.booked_eq_zero (h : EachCovered ps ls) (inStock : InStock ps key m)
    (none : m ≤ 0) : booked key ls = 0 := by
  refine booked_of_apart fun l mem => ?_
  by_contra names
  have bounds := h.pieces_le inStock mem (by simpa using names)
  omega

/-- An order whose lines are covered takes out of a product what its lines order together, down to
nothing at most. -/
theorem EachCovered.inStock (h : EachCovered ps ls) (inStock : InStock ps key m) :
    InStock (ls.foldl takeOut ps) key (max (m - booked key ls) (min m 0)) := by
  have left := inStock_takeOuts inStock h.positive
  -- A line that names the product is covered, so there is something of it.
  split at left
  next any =>
    obtain ⟨l, mem, names⟩ := List.any_eq_true.mp any
    have bounds := h.pieces_le inStock mem names
    rwa [Int.max_comm, Int.min_eq_right (by omega)]
  next none =>
    have zero : booked key ls = 0 := booked_of_apart (by simpa using none)
    rwa [zero, Int.sub_zero, Int.max_eq_left (Int.min_le_left m 0)]

/-- Where a single line at most names a product, the lines are covered together if each is covered
by itself. -/
theorem EachCovered.allCovered (covered : EachCovered ps ls)
    (once : ls.countP (Line.names key) ≤ 1) : AllCovered key ps ls := by
  intro m inStock
  induction ls with
  | nil => simp [booked]
  | cons l ls ih =>
    rw [booked_cons]
    cases names : l.names key with
    | false =>
      rw [List.countP_cons_of_neg (by simp [names])] at once
      rw [Line.pieces_of_not_names names, Int.zero_add]
      exact ih covered.of_cons once
    | true =>
      rw [List.countP_cons_of_pos names] at once
      have none : ls.countP (Line.names key) = 0 := by omega
      have zero : booked key ls = 0 :=
        booked_of_apart (by simpa using List.countP_eq_zero.mp none)
      have bounds := covered.pieces_le inStock List.mem_cons_self names
      omega

/-! ### Orders in turn -/

@[simp] theorem inTurn_append : InTurn P ps (orders ++ orders') ↔
    InTurn P ps orders ∧ InTurn P (takeOutAll ps orders) orders' := by
  induction orders generalizing ps with
  | nil => simp [InTurn, takeOutAll]
  | cons ls orders ih => simp [InTurn, ih, takeOutAll, and_assoc]

theorem InTurn.mono (h : InTurn P ps orders) (le : ∀ ps, ∀ ls ∈ orders, P ps ls → Q ps ls) :
    InTurn Q ps orders := by
  induction orders generalizing ps with
  | nil => trivial
  | cons ls orders ih =>
    exact ⟨le ps ls List.mem_cons_self h.1,
      ih h.2 fun ps ls' mem => le ps ls' (List.mem_cons_of_mem ls mem)⟩

/-- Of a product of which there is nothing, nothing is ordered. -/
theorem InTurn.booked_bounds (h : InTurn EachCovered ps orders) (inStock : InStock ps key m) :
    0 ≤ (orders.map (booked key)).sum ∧ (m ≤ 0 → (orders.map (booked key)).sum = 0) := by
  induction orders generalizing ps m with
  | nil => simp
  | cons ls orders ih =>
    obtain ⟨first, rest⟩ := h
    -- An order that takes all there is leaves nothing for the others to order.
    obtain ⟨nonneg, zero⟩ := ih rest (first.inStock inStock)
    have nonneg' := booked_nonneg key first.positive
    have zero' := first.booked_eq_zero inStock
    rw [List.map_cons, List.sum_cons]
    exact ⟨by omega, fun none => by omega⟩

/-- Orders whose lines are covered take out of a product what they order, down to nothing at
most. -/
theorem InTurn.inStock (h : InTurn EachCovered ps orders) (inStock : InStock ps key m) :
    InStock (takeOutAll ps orders) key
      (max (m - (orders.map (booked key)).sum) (min m 0)) := by
  induction orders generalizing ps m with
  | nil =>
    have same : max (m - 0) (min m 0) = m := by omega
    exact same.symm ▸ inStock
  | cons ls orders ih =>
    obtain ⟨first, rest⟩ := h
    obtain ⟨nonneg, zero⟩ := rest.booked_bounds (first.inStock inStock)
    have zero' := first.booked_eq_zero inStock
    have last := ih rest (first.inStock inStock)
    -- If the first order is short of something, nothing is left, and the others take nothing out.
    rw [List.map_cons, List.sum_cons]
    suffices same : max (max (m - booked key ls) (min m 0) - (orders.map (booked key)).sum)
        (min (max (m - booked key ls) (min m 0)) 0) =
        max (m - (booked key ls + (orders.map (booked key)).sum)) (min m 0) from same ▸ last
    omega

/-- The stock accounts for all that the orders name if and only if each of them was covered as a
whole. -/
theorem InTurn.accounts_iff (h : InTurn EachCovered ps orders) (inStock : InStock ps key m) :
    m - max (m - (orders.map (booked key)).sum) (min m 0) = (orders.map (booked key)).sum ↔
      InTurn (AllCovered key) ps orders := by
  induction orders generalizing ps m with
  | nil =>
    simp only [List.map_nil, List.sum_nil, InTurn, iff_true]
    omega
  | cons ls orders ih =>
    obtain ⟨first, rest⟩ := h
    have inStock' := first.inStock inStock
    obtain ⟨nonneg, zero⟩ := rest.booked_bounds inStock'
    have nonneg' := booked_nonneg key first.positive
    have zero' := first.booked_eq_zero inStock
    -- What the first order is short of is not made up for by the others.
    have whole : AllCovered key ps ls ↔ booked key ls ≤ max 0 m :=
      ⟨fun all => all m inStock, fun le k inStock' => inStock.unique inStock' ▸ le⟩
    rw [InTurn, whole, ← ih rest inStock', List.map_cons, List.sum_cons]
    omega

end Fulfilment
