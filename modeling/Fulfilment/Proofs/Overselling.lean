import Fulfilment.Proofs.Batch
import Fulfilment.Proofs.Bookings

/-!
# What is sold and what is left

As long as the store carries out every call, processing takes out of the stock what the completed
orders name, line by line and down to nothing at most. Before an order is taken on, each of its
lines is held against the stock by itself. So a single line never asks for more than there is, but
the lines of an order may do so together, and then the stock does not account for all that is sold.

## Main definitions

* `MemoryStore.newlyCompleted`, `MemoryStore.sold` - the orders that are completed between two
  stores, and what they order of a product
* `Honoured` - what processing does to the stock and to the orders

## Main results

* `process_honoured` - processing takes out orders whose lines are covered, and completes them
* `honoured_session` - and so does a session in which nothing is called off
* `sold_session` - what is left of a product after a session, and when nothing is oversold
-/

namespace Fulfilment

open Program Processing

namespace MemoryStore

/-- Whether an order is completed. -/
def hasCompleted (s : MemoryStore) (name : Name.Identity) : Bool :=
  (s.orders.get? name).any (·.status = .completed)

/-- The orders that are completed in a later store and are not so in an earlier one. -/
def newlyCompleted (s u : MemoryStore) : List Name.Identity :=
  u.orders.names.filter fun name => u.hasCompleted name && !s.hasCompleted name

/-- How many pieces of a product the orders name that are completed between two stores. -/
def sold (s u : MemoryStore) (key : Name.Identity) : Int :=
  ((s.newlyCompleted u).map fun name => booked key (s.lines name)).sum

end MemoryStore

/-- Whether orders are processed. -/
def Operation.IsWork : Operation → Prop
  | .cancel .. => False
  | _ => True

/-- What a stretch of a session does to the stock and to the orders, if none is called off. -/
structure Honoured (s : MemoryStore) (ms : List (DeskMoment MemoryStore)) (v : MemoryStore) :
    Prop where
  /-- The stock is the replay of the marks. -/
  replayed : Replayed s ms v
  /-- Of the orders that get the mark each line was covered by itself. -/
  covered : InTurn EachCovered s.products ((marks s (states ms)).map s.lines)
  /-- The orders that get the mark are completed, and stay so. -/
  concluded : Concluded s v
  /-- No other orders are completed than those. -/
  earned : ∀ name, v.hasCompleted name = true → s.hasCompleted name = true ∨ v.bears name = true

variable {key name : Name.Identity} {l : Line} {s u v : MemoryStore} {now : Timestamp}
  {settings : OrderSettings} {id : String} {o : Order} {status : Status} {m : Int}
  {ms : List (DeskMoment MemoryStore)}

/-! ### Completed orders -/

theorem MemoryStore.hasCompleted_iff :
    s.hasCompleted name = true ↔ ∃ o, s.orders.get? name = some o ∧ o.status = .completed := by
  simp [MemoryStore.hasCompleted, Option.any_eq_true]

theorem MemoryStore.hasCompleted_congr (same : u.orders.get? name = s.orders.get? name) :
    u.hasCompleted name = s.hasCompleted name := by
  rw [MemoryStore.hasCompleted, same, MemoryStore.hasCompleted]

@[simp] theorem MemoryStore.mem_newlyCompleted : name ∈ s.newlyCompleted u ↔
    s.hasCompleted name = false ∧ u.hasCompleted name = true := by
  simp only [MemoryStore.newlyCompleted, List.mem_filter, Bool.and_eq_true, Bool.not_eq_true']
  constructor
  · rintro ⟨-, completed, before⟩
    exact ⟨before, completed⟩
  · rintro ⟨before, completed⟩
    obtain ⟨o, found, -⟩ := MemoryStore.hasCompleted_iff.mp completed
    exact ⟨List.mem_map.mpr ⟨(name, o), Catalog.get?_eq_some_of_mem found, rfl⟩, completed, before⟩

theorem MemoryStore.takeOutAll_lines (s : MemoryStore) (names : List Name.Identity) :
    takeOutAll s.products (names.map s.lines) = s.replay names := by
  rw [takeOutAll, List.foldl_map, MemoryStore.replay]

/-- Where nothing is called off, the orders that get the mark are those that are completed. -/
theorem Honoured.completed_iff (h : Honoured s ms v) (unmarked : s.bears name = false) :
    s.hasCompleted name = false ∧ v.hasCompleted name = true ↔ v.bears name = true := by
  constructor
  · rintro ⟨before, completed⟩
    obtain completed | marked := h.earned name completed
    · rw [before] at completed
      cases completed
    · exact marked
  · intro marked
    obtain ⟨o, found, adjusted⟩ := bears_eq_true.mp marked
    have completed := h.concluded.concludes name o unmarked found adjusted
    refine ⟨?_, MemoryStore.hasCompleted_iff.mpr ⟨o, found, completed⟩⟩
    -- An order that was completed before is left alone, so it would have had the mark.
    cases before : s.hasCompleted name with
    | false => rfl
    | true =>
      obtain ⟨o', found', completed'⟩ := MemoryStore.hasCompleted_iff.mp before
      have kept := h.concluded.kept name o' found' completed'
      rw [kept] at found
      cases found
      rw [bears_eq_true.mpr ⟨o, found', adjusted⟩] at unmarked
      cases unmarked

/-! ### Processing -/

theorem hasLeft_iff : s.HasLeft l ↔ ∃ key m n, l.productId.identity = .ok key ∧
    InStock s.products key m ∧ l.quantity = .count n ∧ n ≤ m := by
  constructor
  · rintro ⟨p, m, n, found, stock, quantity, le⟩
    obtain ⟨key, named, there⟩ := MemoryStore.product_eq_ok.mp found
    exact ⟨key, m, n, named, ⟨p, there, stock⟩, quantity, le⟩
  · rintro ⟨key, m, n, named, ⟨p, there, stock⟩, quantity, le⟩
    exact ⟨p, m, n, MemoryStore.product_eq_ok.mpr ⟨key, named, there⟩, stock, quantity, le⟩

/-- A review holds each line against the stock by itself. -/
theorem eachCovered_of_isFit (ready : s.Ready id o) (fit : s.IsFit settings o) :
    EachCovered s.products o.lines := by
  intro l mem
  obtain ⟨n, quantity⟩ := ready.quantities l mem
  have left := ((MemoryStore.covers_iff ready.stocked quantity).mp (fit.covered l mem)).1
  obtain ⟨key, m, n', named, inStock, quantity', le⟩ := hasLeft_iff.mp left
  exact ⟨key, m, n', named, inStock, quantity', fit.quantity_pos mem quantity', le⟩

/-- An order that comes through the last steps bears the mark. -/
theorem bears_of_closing (counted : Counted s.products)
    (quantities : ∀ l ∈ o.lines, ∃ n, l.quantity = .count n) (named : o.id = .text id)
    (holds : s.Holds id o status o.stockAdjusted)
    (h : Closing (Undisturbed now) o s ms true v) : v.bears (.text id) = true := by
  cases h with
  | completed adjusted completed accepted told =>
    obtain ⟨-, holds⟩ := adjustment_undisturbed counted quantities named holds adjusted
    rw [named] at completed told
    have done := (completed.disturbed.accepted (by simp) accepted holds).1
    obtain rfl := told.disturbed.aside (by simp)
    rw [bears_of_holds done]
    exact o.truthy_adjustedMark

theorem bears_of_passage (ready : s.Ready id o)
    (h : Passage (Undisturbed now) now o s ms true v) : v.bears (.text id) = true := by
  cases h with
  | printed receipt validated accepted marked accepted' printed confirmed closing =>
    rw [ready.named] at validated marked
    obtain ⟨holds, products⟩ := Disturbed.opened (MemoryStore.holds_of_order? ready.found)
      validated.disturbed accepted marked.disturbed accepted'
    obtain rfl := printed.disturbed.aside (by simp)
    obtain rfl := confirmed.disturbed.aside (by simp)
    exact bears_of_closing (products ▸ ready.stocked) ready.quantities ready.named holds closing

/-- An order that an attempt leaves completed bears the mark. -/
theorem bears_of_attempt {success : Bool} (nodup : s.orders.names.Nodup) (ready : s.Ready id o)
    (h : Attempt (Undisturbed now) now o (.text id) s ms success v)
    (completed : v.hasCompleted (.text id) = true) : v.bears (.text id) = true := by
  obtain ⟨⟨o', found, status⟩, -⟩ := attempt_ended nodup ready h
  cases h with
  | passed passage => exact bears_of_passage ready passage
  | undone =>
    -- The order is pending again.
    obtain ⟨o'', found', completed⟩ := MemoryStore.hasCompleted_iff.mp completed
    rw [MemoryStore.order?, found'] at found
    cases found
    rw [completed] at status
    cases status

/-- The marks of a stretch that leaves all other orders alone. -/
theorem marks_of_others (nodup : s.orders.names.Nodup) (later : Along Later s (states ms) v)
    (others : ∀ key, key ≠ .text id → v.orders.get? key = s.orders.get? key) :
    marks s (states ms) = [] ∨ marks s (states ms) = [.text id] := by
  have only : ∀ name ∈ marks s (states ms), name = .text id := by
    intro name mem
    obtain ⟨unmarked, marked⟩ := (mem_marks later).mp mem
    by_contra apart
    rw [MemoryStore.bears, others name apart] at marked
    rw [MemoryStore.bears, marked] at unmarked
    cases unmarked
  -- No order gets the mark twice, so this one gets it once at most.
  have distinct := nodup_marks nodup later
  rw [List.eq_replicate_of_mem only, List.nodup_replicate] at distinct
  have same := List.eq_replicate_of_mem only
  rcases Nat.le_one_iff_eq_zero_or_eq_one.mp distinct with none | one
  · exact .inl (by rw [same, none]; rfl)
  · exact .inr (by rw [same, one]; rfl)

/-- Processing an order takes it out if each of its lines is covered, and completes it. -/
theorem process_honoured {a : Except Failure Report} (proper : s.Proper)
    (h : Runs (Undisturbed now) (process now settings (.text id)) s ms a v) : Honoured s ms v := by
  obtain ⟨replayed, concluded⟩ := process_undisturbed proper h
  have later := later_process proper (h.mono fun _ _ _ => Undisturbed.disturbed)
  obtain ⟨-, -, rfl⟩ | ⟨o, success, ms₁, ns, found, isOpen, fit, rfl, -, still, attempt⟩ :=
    course_disturbed (fun _ _ _ => Undisturbed.disturbed) h
  · -- Where the store is as it was, no order has got the mark.
    have none : marks v (states ms) = [] := by
      refine List.eq_nil_iff_forall_not_mem.mpr fun name mem => ?_
      obtain ⟨unmarked, marked⟩ := (mem_marks later).mp mem
      rw [unmarked] at marked
      cases marked
    exact ⟨replayed, by rw [none]; trivial, concluded, fun name completed => .inl completed⟩
  have ready := proper.ready found
  obtain ⟨-, others⟩ := attempt_ended proper.names ready attempt
  refine ⟨replayed, ?_, concluded, fun name completed => ?_⟩
  · obtain none | one := marks_of_others proper.names later others
    · rw [none]
      trivial
    · rw [one, List.map_singleton, lines_of_holds (MemoryStore.holds_of_order? found)]
      exact ⟨eachCovered_of_isFit ready fit, trivial⟩
  · by_cases own : name = .text id
    · subst own
      exact .inr (bears_of_attempt proper.names ready attempt completed)
    · rw [MemoryStore.hasCompleted_congr (others name own)] at completed
      exact .inl completed

theorem compositional_honoured : Compositional Honoured where
  nil s := ⟨compositional_replayed.nil s, trivial, compositional_concluded.nil s,
    fun _ completed => .inl completed⟩
  idle s e idle := by
    have none : marks s (states [(e, s)]) = [] := marks_eq_nil ⟨fun _ => rfl, rfl⟩
    exact ⟨compositional_replayed.idle s e idle, by rw [none]; trivial,
      compositional_concluded.idle s e idle, fun _ completed => .inl completed⟩
  append {s u v ms ns} first second := by
    have concluded : Concluded s v :=
      @Compositional.append _ compositional_concluded s u v ms ns first.concluded second.concluded
    refine ⟨first.replayed.append second.replayed, ?_, concluded, fun name completed => ?_⟩
    · -- The second stretch begins with the products that the first one leaves.
      rw [states_append, marks_append first.replayed.lines, List.map_append, inTurn_append,
        MemoryStore.takeOutAll_lines, ← first.replayed.products]
      refine ⟨first.covered, ?_⟩
      rw [← first.replayed.same_lines]
      exact second.covered
    · obtain between | marked := second.earned name completed
      · obtain before | marked := first.earned name between
        · exact .inl before
        · -- A completed order is left alone, and so is its mark.
          obtain ⟨o, found, done⟩ := MemoryStore.hasCompleted_iff.mp between
          have kept := second.concluded.kept name o found done
          refine .inr ?_
          rw [MemoryStore.bears, kept, ← found]
          exact marked
      · exact .inr marked

/-! ### Sessions -/

variable {calls : List (Timestamp × Operation)} {mss : List (List (DeskMoment MemoryStore))}

theorem honoured_operation {op : Operation} (work : op.IsWork) (proper : s.Proper)
    (h : Runs (Undisturbed now) (op.program now settings) s ms () v) : Honoured s ms v := by
  cases op with
  | process id =>
    obtain ⟨a, run, -⟩ := runs_map_iff.mp h
    exact process_honoured proper run
  | cancel id reason => cases work
  | batch =>
    obtain ⟨a, run, -⟩ := runs_map_iff.mp h
    exact batch_induction (fun _ _ _ => Undisturbed.disturbed) compositional_honoured
      process_honoured proper run

theorem honoured_session (proper : s.Proper) (work : ∀ call ∈ calls, call.2.IsWork)
    (h : Session Undisturbed settings s calls mss v) : Honoured s mss.flatten v := by
  induction h with
  | done s => exact compositional_honoured.nil s
  | next run _ ih =>
    have later := Later.of_along
      (later_operation (fun _ _ _ => Undisturbed.disturbed) proper run)
    exact compositional_honoured.append
      (honoured_operation (work _ List.mem_cons_self) proper run)
      (ih (later.proper proper) fun call mem => work call (List.mem_cons_of_mem _ mem))

section Unmarked

variable (proper : s.Proper) (unmarked : ∀ name, s.bears name = false)
include proper unmarked

/-- The orders get the mark in some order, and they are those that are completed. -/
theorem Honoured.perm (h : Honoured s ms v) (later : Along Later s (states ms) v) :
    (marks s (states ms)).Perm (s.newlyCompleted v) := by
  have nodup : v.orders.names.Nodup := (Later.of_along later).names ▸ proper.names
  have distinct : (s.newlyCompleted v).Nodup := nodup.filter _
  refine (List.perm_ext_iff_of_nodup (nodup_marks proper.names later) distinct).mpr fun name => ?_
  rw [mem_marks later, MemoryStore.mem_newlyCompleted, h.completed_iff (unmarked name)]
  exact and_iff_right (unmarked name)

theorem Honoured.sum_booked (h : Honoured s ms v) (later : Along Later s (states ms) v)
    (key : Name.Identity) :
    (((marks s (states ms)).map s.lines).map (booked key)).sum = s.sold v key := by
  rw [List.map_map]
  exact ((h.perm proper unmarked later).map _).sum_eq

/-- The completed orders have been taken out, down to nothing at most. -/
theorem Honoured.inStock (h : Honoured s ms v) (later : Along Later s (states ms) v)
    (inStock : InStock s.products key m) :
    InStock v.products key (max (m - s.sold v key) (min m 0)) := by
  have left := h.covered.inStock inStock
  rwa [h.sum_booked proper unmarked later, MemoryStore.takeOutAll_lines,
    ← h.replayed.products] at left

end Unmarked

/-- What is left of a product when orders have been processed, none of which bore the ledger mark.
The completed orders have been taken out, one after the other as they got the mark, down to nothing
at most. The stock accounts for all that is sold if and only if there was enough for each of these
orders as a whole when its turn came. That is so if no order names the product in more than one
line, and then no more is sold than there was. -/
theorem sold_session (proper : s.Proper) (unmarked : ∀ name, s.bears name = false)
    (work : ∀ call ∈ calls, call.2.IsWork) (h : Session Undisturbed settings s calls mss v)
    {pieces : Int} (inStock : InStock s.products key pieces) :
    ∃ left, InStock v.products key left ∧
      left = max (pieces - s.sold v key) (min pieces 0) ∧
      (marks s (states mss.flatten)).Perm (s.newlyCompleted v) ∧
      (pieces - left = s.sold v key ↔
        InTurn (AllCovered key) s.products ((marks s (states mss.flatten)).map s.lines)) ∧
      ((∀ name ∈ s.newlyCompleted v, (s.lines name).countP (Line.names key) ≤ 1) →
        pieces - left = s.sold v key ∧ s.sold v key ≤ max 0 pieces) := by
  have honoured := honoured_session proper work h
  have later := later_session (fun _ _ _ _ => Undisturbed.disturbed) proper h
  have perm := honoured.perm proper unmarked later
  have accounts := honoured.covered.accounts_iff inStock
  rw [honoured.sum_booked proper unmarked later] at accounts
  refine ⟨_, honoured.inStock proper unmarked later inStock, rfl, perm, accounts, fun once => ?_⟩
  -- An order with a single line for the product is covered as a whole if its line is.
  have all : InTurn (AllCovered key) s.products ((marks s (states mss.flatten)).map s.lines) := by
    refine honoured.covered.mono fun ps ls mem each => ?_
    obtain ⟨name, marked, rfl⟩ := List.mem_map.mp mem
    exact each.allCovered (once name (perm.subset marked))
  have accounted := accounts.mpr all
  exact ⟨accounted, by omega⟩

/-- A store with one product, of which there are so many pieces, and one pending order with a line
for each of some quantities of it. -/
def MemoryStore.basket (pieces : Int) (quantities : List Int) : MemoryStore where
  orders := [(.text "order-1",
    { id := "order-1"
      customerName := "Mona"
      customerEmail := "mona@example.com"
      lines := quantities.map fun n => ⟨"p-1", "Desk Lamp", .count n, .ofInt 5⟩
      total := .decimal (.ofInt (5 * quantities.sum)) })]
  products := [(.text "p-1", ⟨"p-1", "Desk Lamp", .count pieces⟩)]

theorem MemoryStore.proper_basket (pieces : Int) (quantities : List Int) :
    (basket pieces quantities).Proper :=
  proper_single rfl (by simp) (counted_single rfl)

theorem MemoryStore.bears_basket (pieces : Int) (quantities : List Int) (name : Name.Identity) :
    (basket pieces quantities).bears name = false := by
  by_contra marked
  obtain ⟨o, found, adjusted⟩ := bears_eq_true.mp (Bool.eq_true_of_not_eq_false marked)
  cases List.mem_singleton.mp (Catalog.get?_eq_some_of_mem found)
  cases adjusted

/-- The session of a single operation, at a desk at which every call works. -/
theorem exists_session_desk (op : Operation) (s : MemoryStore) : ∃ mss,
    Session Healthy {} s [(default, op)] mss
      ((op.program default {}).run (MemoryStore.desk default) s).2 := by
  obtain ⟨ms, run, -⟩ := runs_run (MemoryStore.desk default) (op.program default {}) s
  exact ⟨_, .single (run.mono fun _ _ _ => healthy_desk)⟩

/-- Of ten pieces an order takes two and three. -/
theorem sold_session_sample :
    let s := MemoryStore.basket 10 [2, 3]
    let key := Name.Identity.text "p-1"
    s.Proper ∧ (∀ name, s.bears name = false) ∧ InStock s.products key 10 ∧ ∃ mss v,
      Session Undisturbed {} s [(default, .process "order-1")] mss v ∧
      s.newlyCompleted v = [.text "order-1"] ∧ s.sold v key = 5 ∧ InStock v.products key 5 := by
  intro s key
  have proper := MemoryStore.proper_basket 10 [2, 3]
  have unmarked := MemoryStore.bears_basket 10 [2, 3]
  have inStock : InStock s.products key 10 := ⟨_, rfl, rfl⟩
  obtain ⟨mss, session⟩ := exists_session_desk (.process "order-1") s
  have undisturbed := session.mono fun _ _ _ _ => Healthy.undisturbed
  obtain ⟨left, there, same, -⟩ := sold_session proper unmarked
    (by simp [Operation.IsWork]) undisturbed inStock
  have sold : s.sold (((Operation.process "order-1").program default {}).run
      (MemoryStore.desk default) s).2 key = 5 := by decide +kernel
  rw [sold] at same
  refine ⟨proper, unmarked, inStock, mss, _, undisturbed, by decide +kernel, sold, ?_⟩
  rwa [same] at there

/-- An order for three and three pieces is completed when there are five, and all of these are
gone. -/
theorem oversold_sample :
    let s := MemoryStore.basket 5 [3, 3]
    let key := Name.Identity.text "p-1"
    s.Proper ∧ (∀ name, s.bears name = false) ∧ InStock s.products key 5 ∧ ∃ mss v,
      Session Healthy {} s [(default, .process "order-1")] mss v ∧
      s.newlyCompleted v = [.text "order-1"] ∧ s.sold v key = 6 ∧ InStock v.products key 0 ∧
      5 - 0 ≠ s.sold v key ∧ 5 < s.sold v key := by
  intro s key
  have proper := MemoryStore.proper_basket 5 [3, 3]
  have unmarked := MemoryStore.bears_basket 5 [3, 3]
  have inStock : InStock s.products key 5 := ⟨_, rfl, rfl⟩
  obtain ⟨mss, session⟩ := exists_session_desk (.process "order-1") s
  have undisturbed := session.mono fun _ _ _ _ => Healthy.undisturbed
  have later := later_session (fun _ _ _ _ => Undisturbed.disturbed) proper undisturbed
  have left := (honoured_session proper (by simp [Operation.IsWork]) undisturbed).inStock proper
    unmarked later inStock
  have sold : s.sold (((Operation.process "order-1").program default {}).run
      (MemoryStore.desk default) s).2 key = 6 := by decide +kernel
  rw [sold] at left
  refine ⟨proper, unmarked, inStock, mss, _, session, by decide +kernel, sold, left, ?_, ?_⟩
  all_goals
    rw [sold]
    decide

end Fulfilment
