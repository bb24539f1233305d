import Fulfilment.Proofs.Retry
import Fulfilment.Proofs.Session

/-!
# How often a line is taken out of the stock

Stock is written line by line, right after the confirmation of the order: each line looks its
product up and writes the stock that is left. So the order and the line that a stock is written for
can be read off the events before it. A line is taken out once at most, unless the order lapses:
neither the ledger mark nor the last mark is taken, the order is made pending again without a trace
of what was done to the stock, and the next attempt does it once more.

## Main definitions

* `credits` - the lines, each with its order, that a stock was written for
* `lapses` - how often an order has lapsed
* `MemoryStore.IsSettled` - whether an order bears the ledger mark or is completed or called off
* `MemoryStore.IsDue` - whether a line would be taken out at the next attempt at its order
* `MemoryStore.lapsingDesk` - a responder at a desk where orders lapse

## Main results

* `credits_session` - how often a line is taken out, and when it can be taken out once more
-/

namespace Fulfilment

open Program Processing

/-- The order whose confirmation was attempted last, and how many products have been looked up
since, after a further event. -/
def cursorAfter (c : Option (String × Nat)) : DeskEvent → Option (String × Nat)
  | ⟨.confirm (.text id) _, _⟩ => some (id, 0)
  | ⟨.confirm .., _⟩ => none
  | ⟨.store (.product _), _⟩ => c.map fun (id, n) => (id, n + 1)
  | _ => c

/-- The line that a stock is written for, as its order and its place among the lines of the order:
it is the one whose product was looked up last. -/
def credit? (c : Option (String × Nat)) : DeskEvent → Option (String × Nat)
  | ⟨.store (.setStock ..), reply⟩ => if taken reply then c.map fun (id, n) => (id, n - 1) else none
  | _ => none

/-- The lines that a stock was written for with success, in order. -/
def credits : Option (String × Nat) → List DeskEvent → List (String × Nat)
  | _, [] => []
  | c, e :: es => (credit? c e).toList ++ credits (cursorAfter c e) es

/-- Whether neither the ledger mark of an order nor the last mark after it is taken. -/
def isLapse (id : String) : DeskEvent → DeskEvent → Bool
  | ⟨.store (.write (.text key) .processing [.stockAdjusted _]), ledger⟩,
    ⟨.store (.write (.text key') .completed _), last⟩ =>
    key = id && key' = id && !taken ledger && !taken last
  | _, _ => false

/-- How often an order has lapsed in some events. -/
def lapses (id : String) : List DeskEvent → Nat
  | e :: f :: es => (if isLapse id e f then 1 else 0) + lapses id (f :: es)
  | _ => 0

namespace MemoryStore

/-- Whether an order bears the ledger mark, or is not taken on any more. -/
def IsSettled (s : MemoryStore) (id : String) : Prop :=
  ∃ o, s.order? id = some o ∧ (o.stockAdjusted.truthy = true ∨ ¬ o.status.IsOpen)

/-- Whether an order has a line in a place, would be attempted, and does not bear the ledger
mark. -/
def IsDue (settings : OrderSettings) (s : MemoryStore) (id : String) (i : Nat) : Prop :=
  ∃ o, s.order? id = some o ∧ o.status.IsOpen ∧ o.stockAdjusted.truthy = false ∧
    s.IsFit settings o ∧ i < o.lines.length

/-- A desk at which the ledger mark and the last mark of an order are declined. -/
def lapsingDesk (now : Timestamp) : Responder DeskCall DeskCall.Reply MemoryStore
  | .store (.write _ .processing [.stockAdjusted _]), s => (.ok (.bool false), s)
  | .store (.write _ .completed _), s => (.ok (.bool false), s)
  | c, s => desk now c s

end MemoryStore

variable {σ : Type} {env : DeskEnvironment σ} {now : Timestamp} {settings : OrderSettings}
  {id key : String} {i n : Nat} {c : Option (String × Nat)} {es fs : List DeskEvent} {o : Order}

/-! ### Credits and lapses of events in a row -/

@[simp] theorem credits_nil : credits c [] = [] := rfl

@[simp] theorem credits_cons (e : DeskEvent) :
    credits c (e :: es) = (credit? c e).toList ++ credits (cursorAfter c e) es := rfl

theorem credits_append :
    credits c (es ++ fs) = credits c es ++ credits (es.foldl cursorAfter c) fs := by
  induction es generalizing c with
  | nil => rfl
  | cons e es ih => simp [ih]

theorem cursorAfter_confirm {pid : Value} {receipt : Option String} {r : Except Failure Bool}
    (named : pid = .text id) : cursorAfter c ⟨.confirm pid receipt, r⟩ = some (id, 0) := by
  subst named
  rfl

/-- Without a stock write there is no credit. -/
theorem credits_of_free (free : ∀ e ∈ es, ∀ pid stock, e.1 ≠ .store (.setStock pid stock)) :
    credits c es = [] := by
  induction es generalizing c with
  | nil => rfl
  | cons e es ih =>
    have none : credit? c e = none := by
      unfold credit?
      split
      · exact absurd rfl (free _ List.mem_cons_self _ _)
      · rfl
    simp [none, ih fun e' mem => free e' (List.mem_cons_of_mem e mem)]

theorem credits_of_isRead (reads : ∀ e ∈ es, e.1.IsRead) : credits c es = [] := by
  refine credits_of_free fun e mem pid stock same => ?_
  have read := reads e mem
  rw [same] at read
  exact read

theorem le_lapses_cons (e : DeskEvent) : lapses id es ≤ lapses id (e :: es) := by
  cases es with
  | nil => exact Nat.zero_le _
  | cons f es => exact Nat.le_add_left ..

theorem lapses_append_le : lapses id es + lapses id fs ≤ lapses id (es ++ fs) := by
  induction es with
  | nil => simp [lapses]
  | cons e es ih =>
    cases es with
    | nil => simpa [lapses] using le_lapses_cons e
    | cons f es =>
      simp only [List.cons_append, lapses] at ih ⊢
      omega

theorem lapses_le_append (es fs : List DeskEvent) : lapses id fs ≤ lapses id (es ++ fs) :=
  Nat.le_trans (Nat.le_add_left ..) lapses_append_le

theorem lapses_eq_one {mark : Value} {changes : List Change} {r r' : Except Failure Value}
    (refused : taken r = false) (refused' : taken r' = false) :
    lapses id [wrote (.text id) .processing [.stockAdjusted mark] r,
      wrote (.text id) .completed changes r'] = 1 := by
  simp [lapses, isLapse, refused, refused']

/-! ### Lines -/

/-- A line has one credit at most, and then it is the next. -/
theorem credits_adjustLine {s v : σ} {ms : List (DeskMoment σ)} {l : Line} {w : Option String}
    (id : String) (n : Nat) (h : Runs env (adjustLine l) s ms w v) :
    (events ms).foldl cursorAfter (some (id, n)) = some (id, n + 1) ∧
      (credits (some (id, n)) (events ms) = [] ∨
        credits (some (id, n)) (events ms) = [(id, n)]) := by
  obtain ⟨reply, -, rfl, -⟩ | ⟨p, rest, reply, u, -, -, -, rfl⟩ := runs_adjustLine h
  · exact ⟨rfl, .inl rfl⟩
  · refine ⟨rfl, ?_⟩
    cases accepted : taken reply <;> simp [credit?, cursorAfter, accepted]

/-- Lines have credits in their places, and each has one at most. -/
theorem credits_adjustLines {s v : σ} {ms : List (DeskMoment σ)} {ls : List Line} {ws : List String}
    (id key : String) (n i : Nat) (h : Runs env (adjustLines ls) s ms ws v) :
    (credits (some (id, n)) (events ms)).count (key, i) ≤
      if key = id ∧ n ≤ i ∧ i < n + ls.length then 1 else 0 := by
  induction ls generalizing s ms ws n with
  | nil =>
    obtain ⟨rfl, rfl, rfl⟩ := runs_done_iff.mp h
    simp
  | cons l ls ih =>
    obtain ⟨ms₁, w, u, ms₂, first, second, rfl⟩ := runs_bind_iff.mp h
    obtain ⟨ws', others, -⟩ := runs_map_iff.mp second
    obtain ⟨cursor, credit⟩ := credits_adjustLine id n first
    have rest := ih (n + 1) others
    -- The cursor is at the next line now, so the rest has its credits in the places after this one.
    rw [events_append, credits_append, cursor, List.count_append]
    have first : (credits (some (id, n)) (events ms₁)).count (key, i) ≤
        if key = id ∧ i = n then 1 else 0 := by
      obtain none | one := credit
      · simp [none]
      · by_cases same : key = id ∧ i = n
        · obtain ⟨rfl, rfl⟩ := same
          simp [one]
        · have ne : (key, i) ≠ (id, n) := fun same' => same (Prod.mk.inj same')
          simp [one, ne.symm]
    rw [List.length_cons]
    grind

theorem credits_adjustLine_undisturbed {s v : MemoryStore} {ms : List (DeskMoment MemoryStore)}
    {l : Line} {w : Option String} {p : Product} {m : Int} (id : String) (n : Nat)
    (counted : Counted s.products) (quantity : l.quantity = .count m)
    (inStock : s.product l.productId = .ok (some p))
    (h : Runs (Undisturbed now) (adjustLine l) s ms w v) :
    credits (some (id, n)) (events ms) = [(id, n)] := by
  obtain ⟨reply, answered, rfl, kept⟩ | ⟨q, rest, reply, u, answered, left, written, rfl⟩ :=
    runs_adjustLine h
  all_goals
    have replied := (Prod.mk.inj answered).1
    rw [inStock] at replied
    cases replied
  · obtain ⟨key, -, there⟩ := MemoryStore.product_eq_ok.mp inStock
    obtain ⟨k, stock⟩ := counted key p there
    have none := kept p rfl
    rw [stock, quantity, Quantity.without?_count] at none
    cases none
  · obtain rfl := answered.disturbed.product.1
    have accepted := (written.setStock inStock).1
    simp [credit?, cursorAfter, accepted]

theorem product_takeOut {s : MemoryStore} {l : Line} {pid : Value} {p : Product}
    (inStock : s.product pid = .ok (some p)) :
    ∃ p', MemoryStore.product { s with products := takeOut s.products l } pid = .ok (some p') := by
  obtain ⟨key, named, there⟩ := MemoryStore.product_eq_ok.mp inStock
  have still : ∃ p', (takeOut s.products l).get? key = some p' := by
    unfold takeOut
    split
    · rw [Catalog.get?_modify, there]
      split <;> exact ⟨_, rfl⟩
    · exact ⟨p, there⟩
  obtain ⟨p', still⟩ := still
  exact ⟨p', MemoryStore.product_eq_ok.mpr ⟨key, named, still⟩⟩

/-- Where every call is carried out, each line of which there is a product has a credit. -/
theorem credits_adjustLines_undisturbed {s v : MemoryStore} {ms : List (DeskMoment MemoryStore)}
    {ls : List Line} {ws : List String} (id : String) (n : Nat) (counted : Counted s.products)
    (quantities : ∀ l ∈ ls, ∃ m, l.quantity = .count m)
    (inStock : ∀ l ∈ ls, ∃ p, s.product l.productId = .ok (some p))
    (h : Runs (Undisturbed now) (adjustLines ls) s ms ws v) (le : n ≤ i) (lt : i < n + ls.length) :
    1 ≤ (credits (some (id, n)) (events ms)).count (id, i) := by
  induction ls generalizing s ms ws n with
  | nil => exact absurd lt (by simpa using le)
  | cons l ls ih =>
    obtain ⟨ms₁, w, u, ms₂, first, second, rfl⟩ := runs_bind_iff.mp h
    obtain ⟨ws', others, -⟩ := runs_map_iff.mp second
    obtain ⟨m, quantity⟩ := quantities l List.mem_cons_self
    obtain ⟨p, found⟩ := inStock l List.mem_cons_self
    have cursor := (credits_adjustLine id n first).1
    have credit := credits_adjustLine_undisturbed id n counted quantity found first
    obtain ⟨rfl, -⟩ := runs_adjustLine_undisturbed counted quantity first
    rw [events_append, credits_append, cursor, credit, List.count_append]
    -- Either the line in question is this one, or it is among the rest.
    by_cases here : i = n
    · subst here
      simp
    · have rest := ih (n + 1) (counted_takeOut counted quantity)
        (fun l' mem => quantities l' (List.mem_cons_of_mem l mem))
        (fun l' mem => product_takeOut (inStock l' (List.mem_cons_of_mem l mem)).choose_spec)
        others (by omega) (by rw [List.length_cons] at lt; omega)
      omega

/-! ### Attempts -/

variable {s u v : MemoryStore} {ms : List (DeskMoment MemoryStore)} {success : Bool}

theorem Later.isSettled (h : Later s u) (settled : s.IsSettled id) : u.IsSettled id := by
  obtain ⟨o, found, settled⟩ := settled
  obtain ⟨o', found', go⟩ := h.order found
  exact ⟨o', found', settled.imp go.marked go.closed⟩

theorem isSettled_of_holds {status : Status} {mark : Value} (holds : s.Holds id o status mark)
    (settled : mark.truthy = true ∨ ¬ status.IsOpen) : s.IsSettled id := by
  obtain ⟨o', found, -, rfl, rfl⟩ := holds
  exact ⟨o', found, settled⟩

/-- Adjusting the stock gives each line a credit at most, if the order does not bear the mark. It
bears the mark afterwards, unless the mark is not taken. -/
theorem credits_adjustment (key : String) (i : Nat) (named : o.id = .text id) (holds : s.IsAt id o)
    (h : Adjustment (Disturbed now) o s ms v) :
    (credits (some (id, 0)) (events ms)).count (key, i) ≤
        (if key = id ∧ i < o.lines.length ∧ o.stockAdjusted.truthy = false then 1 else 0) ∧
      (credits (some (id, 0)) (events ms) = [] ∨ v.IsSettled id ∨
        ∃ ns r, events ms = ns ++ [wrote (.text id) .processing [.stockAdjusted (.bool true)] r] ∧
          taken r = false) := by
  cases h with
  | skipped marked => exact ⟨by simp, .inl rfl⟩
  | made reply unmarked lines mark =>
    rw [named] at mark ⊢
    refine ⟨?_, .inr ?_⟩
    · have each := credits_adjustLines id key 0 i lines
      simpa [credits_append, credit?, unmarked] using each
    · cases accepted : taken reply with
      | true =>
        obtain ⟨status, old, holds, -⟩ := holds.congr (orders_adjustLines lines)
        obtain ⟨marked, -⟩ := mark.accepted (by simp [Change.isOfCourse]) accepted holds
        exact .inl (isSettled_of_holds marked (.inl rfl))
      | false => exact .inr ⟨_, reply, events_append .., accepted⟩

/-- What the credits of an attempt at an order come to: each line has one at most, if the order does
not bear the mark, and other orders have none; where there are any, the order is settled afterwards,
or it has lapsed. -/
structure Credited (id : String) (o : Order) (c : Option (String × Nat)) (es : List DeskEvent)
    (v : MemoryStore) : Prop where
  /-- Each line has one at most. -/
  once : ∀ key i, (credits c es).count (key, i) ≤
    if key = id ∧ i < o.lines.length ∧ o.stockAdjusted.truthy = false then 1 else 0
  /-- The order is settled, or it has lapsed. -/
  settled : credits c es = [] ∨ v.IsSettled id ∨ 1 ≤ lapses id es

theorem credited_nil (none : credits c es = []) : Credited id o c es v :=
  ⟨by simp [none], .inl none⟩

theorem credited_closing (counted : Counted s.products)
    (positive : ∀ l ∈ o.lines, ∃ m, l.quantity = .count m ∧ 0 < m) (named : o.id = .text id)
    (holds : s.IsAt id o) (h : Closing (Disturbed now) o s ms success v) :
    Credited id o (some (id, 0)) (events ms) v := by
  cases h with
  | uncompleted adjusted completed refused =>
    have adjustment := fun key i => credits_adjustment key i named holds adjusted
    rw [named] at completed ⊢
    obtain rfl := completed.refused (by simp) refused
    refine ⟨fun key i => by simpa [credits_append, credit?] using (adjustment key i).1, ?_⟩
    -- An order that is not settled here has lost the ledger mark and then the last one.
    obtain none | settled | ⟨ns, r, same, refused'⟩ := (adjustment id 0).2
    · exact .inl (by simp [credits_append, credit?, none])
    · exact .inr (.inl settled)
    · refine .inr (.inr ?_)
      have lapse : lapses id [wrote (.text id) .processing [.stockAdjusted (.bool true)] r,
          wrote (.text id) .completed [] _] = 1 := lapses_eq_one refused' refused
      rw [events_append, same, List.append_assoc]
      exact lapse ▸ lapses_le_append ..
  | completed adjusted completed accepted told =>
    have adjustment := fun key i => credits_adjustment key i named holds adjusted
    obtain ⟨-, status, mark, holds, -⟩ := later_adjustment counted positive named holds adjusted
    rw [named] at completed ⊢
    obtain ⟨done, -⟩ := completed.accepted (by simp) accepted holds
    obtain rfl := told.aside (by simp)
    refine ⟨fun key i => by simpa [credits_append, credit?] using (adjustment key i).1,
      .inr (.inl ?_)⟩
    exact isSettled_of_holds done (.inr (by simp [Status.IsOpen]))

theorem credited_passage (counted : Counted s.products)
    (positive : ∀ l ∈ o.lines, ∃ m, l.quantity = .count m ∧ 0 < m) (named : o.id = .text id)
    (holds : s.IsAt id o) (h : Passage (Disturbed now) now o s ms success v) :
    Credited id o c (events ms) v := by
  cases h with
  | unvalidated | unmarked | unprinted => exact credited_nil (by simp [credit?])
  | printed receipt validated accepted marked accepted' printed confirmed closing =>
    rw [named] at validated marked
    obtain ⟨later, holds⟩ := later_validated holds validated
    obtain ⟨later', holds⟩ := later_marked holds (by simp [Status.IsOpen]) marked
    obtain rfl := printed.aside (by simp)
    obtain rfl := confirmed.aside (by simp)
    have credited :=
      credited_closing ((later.trans later').counted counted) positive named holds closing
    refine ⟨fun key i => ?_, ?_⟩
    · simpa [credit?, cursorAfter_confirm named] using credited.once key i
    obtain none | settled | lapsed := credited.settled
    · exact .inl (by simpa [credit?, cursorAfter_confirm named] using none)
    · exact .inr (.inl settled)
    · refine .inr (.inr (Nat.le_trans lapsed ?_))
      exact lapses_le_append [_, _, _, _] (events _)

theorem credited_attempt (ready : s.Ready id o) (isOpen : o.status.IsOpen)
    (fit : s.IsFit settings o) (h : Attempt (Disturbed now) now o (.text id) s ms success v) :
    Credited id o c (events ms) v := by
  have positive := fit.quantities_pos ready.quantities
  have holds : s.IsAt id o := ⟨_, _, MemoryStore.holds_of_order? ready.found, isOpen⟩
  cases h with
  | passed passage => exact credited_passage ready.stocked positive ready.named holds passage
  | undone reply passage undo =>
    have credited : Credited id o c (events _) _ :=
      credited_passage ready.stocked positive ready.named holds passage
    have working := (later_passage ready.stocked positive ready.named holds passage).2 rfl
    obtain ⟨later, -⟩ := later_marked working (by simp [Status.IsOpen]) undo
    refine ⟨fun key i => by simpa [credits_append, credit?] using credited.once key i, ?_⟩
    obtain none | settled | lapsed := credited.settled
    · exact .inl (by simp [credits_append, credit?, none])
    · exact .inr (.inl (later.isSettled settled))
    · rw [events_append]
      exact .inr (.inr (Nat.le_trans lapsed (Nat.le_trans (Nat.le_add_right ..) lapses_append_le)))

/-! ### Sessions -/

theorem not_isSettled_of_isDue (due : s.IsDue settings id i) : ¬ s.IsSettled id := by
  rintro ⟨o', found', settled⟩
  obtain ⟨o, found, isOpen, unmarked, -⟩ := due
  rw [found] at found'
  cases found'
  obtain marked | closed := settled
  · rw [unmarked] at marked
    cases marked
  · exact closed isOpen

/-- A line that is due later has been due before. -/
theorem Later.isDue (h : Later s u) (proper : s.Proper) (due : u.IsDue settings id i) :
    s.IsDue settings id i := by
  obtain ⟨o', found', isOpen, unmarked, fit, lt⟩ := due
  obtain ⟨o, found, go⟩ := h.order_before found'
  refine ⟨o, found, ?_, ?_, h.isFit proper found go fit, go.content.lines ▸ lt⟩
  · exact Classical.byContradiction fun closed => go.closed closed isOpen
  · cases marked : o.stockAdjusted.truthy with
    | false => rfl
    | true =>
      rw [go.marked marked] at unmarked
      cases unmarked

/-- What the credits of a line come to in a stretch of a session: there are any only if the line was
due at the beginning, and there is one more than there are lapses at most, and no more than lapses
as long as the order is not settled. -/
structure Tally (settings : OrderSettings) (id : String) (i : Nat) (s : MemoryStore)
    (ms : List (DeskMoment MemoryStore)) (v : MemoryStore) : Prop where
  /-- The stretch leads later. -/
  later : Later s v
  /-- The line was due. -/
  due : ∀ c, 0 < (credits c (events ms)).count (id, i) → s.IsDue settings id i
  /-- There is one credit more than lapses at most. -/
  bound : ∀ c, (credits c (events ms)).count (id, i) ≤ lapses id (events ms) + 1
  /-- Without the order being settled there are no more credits than lapses. -/
  unsettled : ¬ v.IsSettled id → ∀ c, (credits c (events ms)).count (id, i) ≤ lapses id (events ms)

theorem tally_nil (later : Later s v) (none : ∀ c, credits c (events ms) = []) :
    Tally settings id i s ms v :=
  ⟨later, by simp [none], by simp [none], by simp [none]⟩

theorem Tally.append {ns : List (DeskMoment MemoryStore)} (proper : s.Proper)
    (first : Tally settings id i s ms u) (second : Tally settings id i u ns v) :
    Tally settings id i s (ms ++ ns) v := by
  have split (c : Option (String × Nat)) : ∃ c', (credits c (events (ms ++ ns))).count (id, i) =
      (credits c (events ms)).count (id, i) + (credits c' (events ns)).count (id, i) :=
    ⟨_, by rw [events_append, credits_append, List.count_append]⟩
  have lapsed : lapses id (events ms) + lapses id (events ns) ≤ lapses id (events (ms ++ ns)) := by
    rw [events_append]
    exact lapses_append_le
  -- Where the second stretch has a credit, the order was not settled between the two.
  have between (c c' : Option (String × Nat)) : (credits c' (events ns)).count (id, i) = 0 ∨
      (credits c (events ms)).count (id, i) ≤ lapses id (events ms) := by
    rcases Nat.eq_zero_or_pos ((credits c' (events ns)).count (id, i)) with zero | positive
    · exact .inl zero
    · exact .inr (first.unsettled (not_isSettled_of_isDue (second.due c' positive)) c)
  refine ⟨first.later.trans second.later, fun c positive => ?_, fun c => ?_, fun unsettled c => ?_⟩
  all_goals
    obtain ⟨c', count⟩ := split c
    have bound := first.bound c
    have bound' := second.bound c'
    have between := between c c'
  · by_cases one : 0 < (credits c (events ms)).count (id, i)
    · exact first.due c one
    · exact first.later.isDue proper (second.due c' (by omega))
  · omega
  · have rest := second.unsettled unsettled c'
    have before := first.unsettled (fun settled => unsettled (second.later.isSettled settled)) c
    omega

theorem tally_process {key : String} {a : Except Failure Report} (proper : s.Proper)
    (h : Runs (Disturbed now) (process now settings (.text key)) s ms a v) :
    Tally settings id i s ms v := by
  have later := Later.of_along (later_process proper h)
  obtain ⟨reads, -, -⟩ | ⟨o, success, ms₁, ns, found, isOpen, fit, rfl, reads, -, attempt⟩ :=
    course_disturbed (fun _ _ _ answered => answered) h
  · exact tally_nil later fun c => credits_of_isRead reads
  have credited (c) : Credited key o c (events ns) v :=
    credited_attempt (proper.ready found) isOpen fit attempt
  have same (c) : credits c (events (ms₁ ++ ns)) =
      credits ((events ms₁).foldl cursorAfter c) (events ns) := by
    rw [events_append, credits_append, credits_of_isRead reads]
    rfl
  have lapsed : lapses key (events ns) ≤ lapses key (events (ms₁ ++ ns)) := by
    rw [events_append]
    exact lapses_le_append ..
  refine ⟨later, fun c => ?_, fun c => ?_, fun unsettled c => ?_⟩
  all_goals
    rw [same]
    have once := (credited ((events ms₁).foldl cursorAfter c)).once id i
  · split at once
    next here =>
      obtain ⟨rfl, lt, unmarked⟩ := here
      exact fun _ => ⟨o, found, isOpen, unmarked, fit, lt⟩
    next => omega
  · split at once <;> omega
  · split at once
    next here =>
      obtain ⟨rfl, -⟩ := here
      obtain none | settled | one := (credited ((events ms₁).foldl cursorAfter c)).settled
      · simp [none]
      · exact absurd settled unsettled
      · omega
    next => omega

theorem tally_cancel {key : String} {reason : Value} {success : Bool}
    (h : Runs (Disturbed now) (cancel now settings (.text key) reason) s ms success v) :
    Tally settings id i s ms v := by
  have later := Later.of_along (later_cancel h)
  cases callingOff_of_runs h with
  | refused => exact tally_nil later fun _ => rfl
  | told => exact tally_nil later fun _ => rfl

theorem tally_session {calls : List (Timestamp × Operation)}
    {mss : List (List (DeskMoment MemoryStore))} (proper : s.Proper)
    (h : Session Disturbed settings s calls mss v) : Tally settings id i s mss.flatten v := by
  have whole : Compositional fun s ms v => s.Proper → Tally settings id i s ms v := by
    refine ⟨fun s _ => tally_nil (.refl s) fun _ => rfl, fun s e idle _ => ?_, ?_⟩
    · refine tally_nil (.refl s) fun c => credits_of_free fun e' mem pid stock same => ?_
      cases List.mem_singleton.mp mem
      rw [same] at idle
      exact idle
    · intro s u v ms ns first second proper
      exact (first proper).append proper (second ((first proper).later.proper proper))
  exact session_induction (fun _ _ _ _ answered => answered) whole
    (fun proper run _ => tally_process proper run) (fun _ run _ => tally_cancel run) proper h proper

/-- Where every call is carried out, adjusting the stock for an order that does not bear the mark
and whose products are there gives each of its lines a credit. -/
theorem credits_closing_undisturbed (id : String) (counted : Counted s.products)
    (quantities : ∀ l ∈ o.lines, ∃ m, l.quantity = .count m)
    (inStock : ∀ l ∈ o.lines, ∃ p, s.product l.productId = .ok (some p))
    (unmarked : o.stockAdjusted.truthy = false) (lt : i < o.lines.length)
    (h : Closing (Hitched none now) o s ms true v) :
    1 ≤ (credits (some (id, 0)) (events ms)).count (id, i) := by
  cases h with
  | completed adjusted completed accepted told =>
    cases adjusted with
    | skipped marked =>
      rw [unmarked] at marked
      cases marked
    | made reply _ lines mark =>
      have carried := lines.mono_of_asks (asks_adjustLines _)
        fun _ _ _ stock hitched => hitched.undisturbed (hits_of_isStock stock)
      have each := credits_adjustLines_undisturbed id 0 counted quantities inStock carried
        (Nat.zero_le i) (by omega)
      rw [events_append, events_append, credits_append, credits_append, List.count_append,
        List.count_append]
      omega

/-- Where every call works, the attempt at an order that is due gives each of its lines a credit. -/
theorem credits_of_isDue {a : Except Failure Report} (c : Option (String × Nat)) (proper : s.Proper)
    (due : s.IsDue settings id i)
    (h : Runs (Healthy now) (process now settings (.text id)) s ms a v) :
    1 ≤ (credits c (events ms)).count (id, i) := by
  obtain ⟨o, found, isOpen, unmarked, fit, lt⟩ := due
  have ready := proper.ready found
  obtain ⟨report, -, ⟨unfit, -⟩ | ⟨-, -, ms₁, ns, reads, -, rfl, attempt⟩⟩ :=
    course_of_ready (fun _ _ _ read hitched => Hitched.undisturbed hitched (hits_of_isRead read))
      found isOpen (h.mono fun _ _ _ => Healthy.hitched)
  · exact absurd fit unfit
  have success : report.success = true := (attempt_hitched ready attempt).1
  rw [success] at attempt
  cases attempt with
  | passed passage =>
    cases passage with
    | printed receipt validated accepted marked accepted' printed confirmed closing =>
      rw [ready.named] at validated marked
      obtain ⟨-, products⟩ := Disturbed.opened (MemoryStore.holds_of_order? found)
        validated.disturbed accepted marked.disturbed accepted'
      obtain rfl := printed.disturbed.aside (by simp)
      obtain rfl := confirmed.disturbed.aside (by simp)
      have each := credits_closing_undisturbed id (by rw [products]; exact ready.stocked)
        ready.quantities (fun l mem => fit.inStock products mem) unmarked lt closing
      rw [events_append, credits_append, credits_of_isRead reads]
      simpa [credit?, cursorAfter_confirm ready.named] using each

theorem disturbed_desk {e : DeskEvent} (h : Environment.of (MemoryStore.desk now) s e u) :
    Disturbed now s e u :=
  (healthy_desk h).undisturbed.disturbed

theorem disturbed_lapsingDesk {e : DeskEvent}
    (h : Environment.of (MemoryStore.lapsingDesk now) s e u) : Disturbed now s e u := by
  obtain ⟨c, r⟩ := e
  have replied : MemoryStore.lapsingDesk now c s = (r, u) := h
  unfold MemoryStore.lapsingDesk at replied
  split at replied
  · cases replied
    exact .inr ⟨rfl, rfl⟩
  · cases replied
    exact .inr ⟨rfl, rfl⟩
  · exact disturbed_desk replied

theorem session_process {a : Except Failure Report}
    (run : Runs (Disturbed now) (process now settings (.text id)) s ms a v) :
    Session Disturbed settings s [(now, .process id)] [ms] v :=
  .single (runs_map_iff.mpr ⟨a, run, rfl⟩)

/-- In a session, whatever fails on the way, a line is taken out of the stock once, and once more
each time its order lapses, at most. The session can go on so that the line is taken out another
time if and only if the line is due. -/
theorem credits_session {calls : List (Timestamp × Operation)}
    {mss : List (List (DeskMoment MemoryStore))} (id : String) (i : Nat) (proper : s.Proper)
    (h : Session Disturbed settings s calls mss v) :
    (credits none (events mss.flatten)).count (id, i) ≤ 1 + lapses id (events mss.flatten) ∧
      ((∃ calls' mss' w, Session Disturbed settings v calls' mss' w ∧
          (credits none (events mss.flatten)).count (id, i) <
            (credits none (events (mss ++ mss').flatten)).count (id, i)) ↔
        v.IsDue settings id i) := by
  have tally : Tally settings id i s mss.flatten v := tally_session proper h
  have proper' := tally.later.proper proper
  -- What is counted up to the end of a longer session is what has been counted, and the rest.
  have further (mss' : List (List (DeskMoment MemoryStore))) :
      ∃ c, (credits none (events (mss ++ mss').flatten)).count (id, i) =
        (credits none (events mss.flatten)).count (id, i) +
          (credits c (events mss'.flatten)).count (id, i) :=
    ⟨_, by rw [List.flatten_append, events_append, credits_append, List.count_append]⟩
  refine ⟨by have := tally.bound none; omega, ?_, fun due => ?_⟩
  · rintro ⟨calls', mss', w, rest, more⟩
    obtain ⟨c, count⟩ := further mss'
    exact (tally_session proper' rest).due c (by omega)
  · obtain ⟨ms, run, -⟩ :=
      runs_run (MemoryStore.desk default) (process default settings (.text id)) v
    obtain ⟨c, count⟩ := further [ms]
    have once := credits_of_isDue c proper' due (run.mono fun _ _ _ => healthy_desk)
    rw [List.flatten_singleton] at count
    exact ⟨_, [ms], _, session_process (run.mono fun _ _ _ => disturbed_desk), by omega⟩

/-- An order of ten pieces in stock lapses, and its line is due again. -/
theorem credits_session_sample :
    let s := MemoryStore.sample 10 2
    s.Proper ∧ ∃ calls mss v, Session Disturbed {} s calls mss v ∧
      lapses "order-1" (events mss.flatten) = 1 ∧
      (credits none (events mss.flatten)).count ("order-1", 0) ≤
        1 + lapses "order-1" (events mss.flatten) ∧
      ((∃ calls' mss' w, Session Disturbed {} v calls' mss' w ∧
          (credits none (events mss.flatten)).count ("order-1", 0) <
            (credits none (events (mss ++ mss').flatten)).count ("order-1", 0)) ↔
        v.IsDue {} "order-1" 0) := by
  intro s
  have proper : s.Proper := MemoryStore.proper_sample 10 2
  obtain ⟨ms, run, trace⟩ :=
    runs_run (MemoryStore.lapsingDesk default) (process default {} "order-1") s
  have session := session_process (run.mono fun _ _ _ => disturbed_lapsingDesk)
  have lapsed : lapses "order-1" (events [ms].flatten) = 1 := by
    rw [List.flatten_singleton, trace]
    decide +kernel
  exact ⟨proper, _, _, _, session, lapsed, credits_session "order-1" 0 proper session⟩

/-- An order takes two of ten pieces and lapses. At the next attempt it takes two pieces once
more. -/
theorem credits_twice_sample :
    let s := MemoryStore.sample 10 2
    s.Proper ∧ ∃ mss v,
      Session Disturbed {} s [(default, .process "order-1"), (default, .process "order-1")] mss v ∧
      (credits none (events mss.flatten)).count ("order-1", 0) = 2 := by
  intro s
  obtain ⟨ms, run, trace⟩ :=
    runs_run (MemoryStore.lapsingDesk default) (process default {} "order-1") s
  obtain ⟨ms', run', trace'⟩ := runs_run (MemoryStore.desk default) (process default {} "order-1")
    ((process default {} "order-1").run (MemoryStore.lapsingDesk default) s).2
  have first := session_process (run.mono fun _ _ _ => disturbed_lapsingDesk)
  have second := session_process (run'.mono fun _ _ _ => disturbed_desk)
  refine ⟨MemoryStore.proper_sample 10 2, _, _, first.append second, ?_⟩
  rw [List.flatten_append, List.flatten_singleton, List.flatten_singleton, events_append, trace,
    trace']
  decide +kernel

end Fulfilment
