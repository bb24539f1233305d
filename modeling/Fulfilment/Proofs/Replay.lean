import Fulfilment.Proofs.Adjusting
import Fulfilment.Proofs.Session

/-!
# The stock as a replay of the ledger

As long as the store carries out every call, whatever becomes of receipts and notices, the stock is
settled by the ledger marks alone: it is what is left of the stock at the beginning when the orders
that have got the mark since are taken out, each once, in the order in which they got it. Most steps
leave the marks and the stock as they are. The one that does not takes the lines of an order out and
marks it, and then the order is completed.

## Main definitions

* `MemoryStore.bears`, `MemoryStore.newlyMarked`, `marks` - which orders bear the ledger mark, and
  which get it
* `MemoryStore.replay` - the products after some orders are taken out
* `Steady` - a step that leaves marks and stock as they are
* `Replayed` - whether the stock at the end of a stretch is the replay of its marks
* `Recorded` - whether besides an order is completed at the end
* `Dwindles`, `Concludes` - what a step and what an operation leave behind

## Main results

* `attempt_undisturbed` - an attempt is steady, or it adjusts the stock once and completes the order
* `process_undisturbed` - processing an order replays its mark
* `replay_session` - the stock after a session is the replay of its marks
-/

namespace Fulfilment

open Program Processing

namespace MemoryStore

/-- Whether an order bears the ledger mark. -/
def bears (s : MemoryStore) (key : Name.Identity) : Bool :=
  (s.orders.get? key).any (·.stockAdjusted.truthy)

/-- The lines of an order. -/
def lines (s : MemoryStore) (key : Name.Identity) : List Line :=
  ((s.orders.get? key).map (·.lines)).getD []

/-- The orders that bear the ledger mark in a later store and do not bear it in an earlier one. -/
def newlyMarked (s u : MemoryStore) : List Name.Identity :=
  u.orders.names.filter fun key => u.bears key && !s.bears key

/-- The products after the lines of some orders are taken out, one order after the other. -/
def replay (s : MemoryStore) (keys : List Name.Identity) : Products :=
  keys.foldl (fun ps key => (s.lines key).foldl takeOut ps) s.products

/-- Whether there is nothing at least of each product. -/
def Solvent (s : MemoryStore) : Prop :=
  ∀ key p, s.products.get? key = some p → ∃ m, p.stock = .count m ∧ 0 ≤ m

end MemoryStore

/-- The orders that get the ledger mark over some states in a row, in the order in which they get
it. -/
def marks : MemoryStore → List MemoryStore → List Name.Identity
  | _, [] => []
  | s, u :: us => s.newlyMarked u ++ marks u us

/-- The stores at the ends of the operations of a session. -/
def ends : MemoryStore → List (List (DeskMoment MemoryStore)) → List MemoryStore
  | _, [] => []
  | s, ms :: mss => (states ms).getLastD s :: ends ((states ms).getLastD s) mss

/-- Whether a step changes at most how far an order has come, and neither its mark nor the stock. -/
structure Steady (id : String) (s u : MemoryStore) : Prop where
  /-- The stock is as it was. -/
  products : u.products = s.products
  /-- So are the ledger marks. -/
  bears : ∀ key, u.bears key = s.bears key
  /-- So are the lines. -/
  lines : ∀ key, u.lines key = s.lines key
  /-- The orders are the same ones. -/
  names : u.orders.names = s.orders.names
  /-- The other orders are left alone. -/
  others : ∀ key, key ≠ .text id → u.orders.get? key = s.orders.get? key

/-- Whether the stock at the end of a stretch of a session is the replay of the marks that it
sets. -/
structure Replayed (s : MemoryStore) (ms : List (DeskMoment MemoryStore)) (v : MemoryStore) :
    Prop where
  /-- The lines of the orders stay as they are. -/
  lines : Along (fun t u => ∀ key, u.lines key = t.lines key) s (states ms) v
  /-- The stock is the replay. -/
  products : v.products = s.replay (marks s (states ms))

/-- Whether the stretch replays the marks that it sets, and ends with an order completed. -/
structure Recorded (id : String) (o : Order) (s : MemoryStore) (ms : List (DeskMoment MemoryStore))
    (v : MemoryStore) : Prop where
  /-- The stock is the replay. -/
  replayed : Replayed s ms v
  /-- The other orders are left alone. -/
  others : ∀ key, key ≠ .text id → v.orders.get? key = s.orders.get? key
  /-- The order is completed. -/
  completed : ∃ mark, v.Holds id o .completed mark

/-- Whether marks stay where they are set, and of each product there is nothing at least and no more
than before. -/
structure Dwindles (s u : MemoryStore) : Prop where
  /-- The marks stay. -/
  bears : ∀ key, s.bears key = true → u.bears key = true
  /-- The stock does not grow, and does not fall below nothing. -/
  stock : ∀ key p', u.products.get? key = some p' → ∃ p m m', s.products.get? key = some p ∧
    p.stock = .count m ∧ p'.stock = .count m' ∧ 0 ≤ m' ∧ m' ≤ m

/-- Whether the orders that have got the ledger mark are completed. -/
def Concludes (s u : MemoryStore) : Prop :=
  ∀ key o, s.bears key = false → u.orders.get? key = some o → o.stockAdjusted.truthy = true →
    o.status = .completed

/-- Whether completed orders are left alone, and the orders that have got the ledger mark are
completed. -/
structure Concluded (s u : MemoryStore) : Prop where
  /-- Completed orders are left alone. -/
  kept : ∀ key o, s.orders.get? key = some o → o.status = .completed → u.orders.get? key = some o
  /-- What has got the mark is completed. -/
  concludes : Concludes s u

variable {s t u v : MemoryStore} {now : Timestamp} {settings : OrderSettings} {id : String}
  {o : Order} {key : Name.Identity} {keys : List Name.Identity} {us ws : List MemoryStore}
  {ms ns : List (DeskMoment MemoryStore)} {status : Status} {changes : List Change}
  {R : MemoryStore → MemoryStore → Prop}

/-! ### Marks -/

theorem bears_eq_true : s.bears key = true ↔
    ∃ o, s.orders.get? key = some o ∧ o.stockAdjusted.truthy = true := by
  simp [MemoryStore.bears, Option.any_eq_true]

theorem mem_names_of_bears (marked : s.bears key = true) : key ∈ s.orders.names := by
  obtain ⟨o, found, -⟩ := bears_eq_true.mp marked
  exact List.mem_map.mpr ⟨(key, o), Catalog.get?_eq_some_of_mem found, rfl⟩

@[simp] theorem mem_newlyMarked :
    key ∈ s.newlyMarked u ↔ s.bears key = false ∧ u.bears key = true := by
  simp only [MemoryStore.newlyMarked, List.mem_filter, Bool.and_eq_true, Bool.not_eq_true']
  exact ⟨fun ⟨_, marked, unmarked⟩ => ⟨unmarked, marked⟩,
    fun ⟨unmarked, marked⟩ => ⟨mem_names_of_bears marked, marked, unmarked⟩⟩

theorem newlyMarked_eq_nil (same : ∀ key, u.bears key = s.bears key) : s.newlyMarked u = [] := by
  simp [MemoryStore.newlyMarked, same]

/-- Where a single order gets the mark, it is the one that has newly got it. -/
theorem newlyMarked_eq_singleton (nodup : u.orders.names.Nodup)
    (new : ∀ other, s.bears other = false ∧ u.bears other = true ↔ other = key) :
    s.newlyMarked u = [key] := by
  have mem : key ∈ u.orders.names := mem_names_of_bears ((new key).mpr rfl).2
  have only : ∀ other ∈ u.orders.names, (u.bears other && !s.bears other) = (other == key) := by
    intro other _
    rw [Bool.eq_iff_iff, beq_iff_eq, ← new other]
    simp [and_comm]
  rw [MemoryStore.newlyMarked, List.filter_congr only, List.filter_beq, nodup.count, if_pos mem]
  rfl

theorem marks_append (h : Along R s us u) : marks s (us ++ ws) = marks s us ++ marks u ws := by
  induction us generalizing s with
  | nil =>
    obtain rfl := h
    rfl
  | cons t us ih => simp [marks, ih h.2]

theorem marks_eq_nil (h : Along (fun t u => ∀ key, u.bears key = t.bears key) s us v) :
    marks s us = [] := by
  induction us generalizing s with
  | nil => rfl
  | cons u us ih => simp [marks, newlyMarked_eq_nil h.1, ih h.2]

theorem Later.bears (h : Later s u) (marked : s.bears key = true) : u.bears key = true := by
  obtain ⟨o, found, marked⟩ := bears_eq_true.mp marked
  obtain ⟨o', found', go⟩ := h.order found
  exact bears_eq_true.mpr ⟨o', found', go.marked marked⟩

theorem Later.lines (h : Later s u) (key : Name.Identity) : u.lines key = s.lines key := by
  unfold MemoryStore.lines
  cases found : u.orders.get? key with
  | some o' =>
    obtain ⟨o, found', go⟩ := h.order_before found
    rw [found']
    exact go.content.lines
  | none =>
    cases found' : s.orders.get? key with
    | none => rfl
    | some o =>
      obtain ⟨o', there, -⟩ := h.order found'
      rw [found] at there
      cases there

/-- The orders that get the mark over some states are those that bear it in the end and did not bear
it in the beginning. -/
theorem mem_marks (h : Along Later s us v) :
    key ∈ marks s us ↔ s.bears key = false ∧ v.bears key = true := by
  induction us generalizing s with
  | nil =>
    obtain rfl := h
    simp [marks]
  | cons u us ih =>
    have last := Later.of_along h.2
    rw [marks, List.mem_append, mem_newlyMarked, ih h.2]
    -- A mark stays once it is set, so an order gets it at one step at most.
    constructor
    · rintro (⟨unmarked, marked⟩ | ⟨unmarked, marked⟩)
      · exact ⟨unmarked, last.bears marked⟩
      · refine ⟨?_, marked⟩
        cases before : s.bears key with
        | false => rfl
        | true => rw [h.1.bears before] at unmarked; cases unmarked
    · rintro ⟨unmarked, marked⟩
      cases between : u.bears key with
      | false => exact .inr ⟨rfl, marked⟩
      | true => exact .inl ⟨unmarked, rfl⟩

/-- No order gets the mark twice. -/
theorem nodup_marks (nodup : s.orders.names.Nodup) (h : Along Later s us v) :
    (marks s us).Nodup := by
  induction us generalizing s with
  | nil => exact .nil
  | cons u us ih =>
    -- What gets the mark after the first step has not got it there.
    have nodup' : u.orders.names.Nodup := h.1.names ▸ nodup
    refine List.nodup_append.mpr ⟨nodup'.filter _, ih nodup' h.2, fun key mem key' mem' same => ?_⟩
    subst same
    have marked := (mem_newlyMarked.mp mem).2
    rw [((mem_marks h.2).mp mem').1] at marked
    cases marked

/-! ### Steady steps -/

theorem Steady.refl (id : String) (s : MemoryStore) : Steady id s s :=
  ⟨rfl, fun _ => rfl, fun _ => rfl, rfl, fun _ _ => rfl⟩

theorem Steady.trans (h : Steady id s t) (h' : Steady id t u) : Steady id s u where
  products := h'.products.trans h.products
  bears key := (h'.bears key).trans (h.bears key)
  lines key := (h'.lines key).trans (h.lines key)
  names := h'.names.trans h.names
  others key ne := (h'.others key ne).trans (h.others key ne)

theorem bears_advance : (s.advance now id status changes o).bears key =
    if .text id = key then (changes.foldl Change.mark o.stockAdjusted).truthy else s.bears key := by
  rw [MemoryStore.bears, MemoryStore.get?_advance]
  split
  · rw [Option.any_some, MemoryStore.stockAdjusted_written]
  · rfl

theorem lines_advance (course : ∀ c ∈ changes, c.isOfCourse = true) (found : s.order? id = some o) :
    (s.advance now id status changes o).lines key = s.lines key := by
  rw [MemoryStore.lines, MemoryStore.get?_advance]
  split
  next same =>
    subst same
    rw [MemoryStore.lines, show s.orders.get? (.text id) = some o from found]
    exact (MemoryStore.sameContent_written course).lines
  next => rfl

/-- A status write that does not touch the mark is steady. -/
theorem steady_wrote {r : Except Failure Value} (course : ∀ c ∈ changes, c.isOfCourse = true)
    (keeps : ∀ mark : Value, changes.foldl Change.mark mark = mark)
    (h : Undisturbed now s (wrote (.text id) status changes r) u) : Steady id s u := by
  rcases h.disturbed.wrote course with ⟨-, o, found, rfl⟩ | ⟨-, rfl⟩
  case inr => exact .refl id u
  refine ⟨rfl, fun key => ?_, fun key => lines_advance course found,
    MemoryStore.names_advance found, fun key ne => ?_⟩
  · rw [bears_advance, keeps]
    split
    next same =>
      subst same
      rw [MemoryStore.bears, show s.orders.get? (.text id) = some o from found]
      rfl
    next => rfl
  · rw [MemoryStore.get?_advance, if_neg (Ne.symm ne)]

theorem steady_validated {r : Except Failure Value}
    (h : Undisturbed now s (wrote (.text id) .validated [.validatedAt (.timestamp now)] r) u) :
    Steady id s u :=
  steady_wrote (by simp [Change.isOfCourse]) (by exact fun _ => rfl) h

theorem steady_marked {r : Except Failure Value}
    (h : Undisturbed now s (wrote (.text id) status [] r) u) : Steady id s u :=
  steady_wrote (by simp) (by exact fun _ => rfl) h

/-! ### Stretches -/

/-- No line changes on the way. -/
theorem Replayed.same_lines (h : Replayed s ms v) : v.lines = s.lines :=
  funext (h.lines.rel (fun _ _ => rfl) fun before after key => (after key).trans (before key)).1

theorem Replayed.append (first : Replayed s ms u) (second : Replayed u ns v) :
    Replayed s (ms ++ ns) v where
  lines := by
    rw [states_append]
    exact first.lines.append second.lines
  products := by
    -- The second replay takes out what the first store says.
    rw [second.products, states_append, marks_append first.lines, MemoryStore.replay,
      MemoryStore.replay, List.foldl_append, first.same_lines, first.products]
    rfl

theorem replayed_of_steady (id : String) (h : Along (Steady id) s (states ms) v) :
    Replayed s ms v where
  lines := h.mono fun _ _ steady => steady.lines
  products := by
    rw [marks_eq_nil (h.mono fun _ _ steady => steady.bears)]
    exact (h.rel (.refl id) .trans).1.products

theorem compositional_replayed : Compositional Replayed where
  nil _ := ⟨rfl, rfl⟩
  idle s _ _ := replayed_of_steady "" ⟨.refl "" s, rfl⟩
  append := .append

theorem lines_of_holds {mark : Value} (holds : s.Holds id o status mark) :
    s.lines (.text id) = o.lines := by
  obtain ⟨o', found, content, -⟩ := holds
  rw [MemoryStore.lines, show s.orders.get? (.text id) = some o' from found]
  exact content.lines

theorem bears_of_holds {mark : Value} (holds : s.Holds id o status mark) :
    s.bears (.text id) = mark.truthy := by
  obtain ⟨o', found, -, -, rfl⟩ := holds
  rw [MemoryStore.bears, show s.orders.get? (.text id) = some o' from found]
  rfl

/-- An order that is marked in the ledger has newly got the mark. -/
theorem newlyMarked_ledger {r : Except Failure Value} (nodup : s.orders.names.Nodup)
    (found : s.order? id = some o) (unmarked : o.stockAdjusted.truthy = false)
    (h : Undisturbed now s (wrote (.text id) .processing [.stockAdjusted (.bool true)] r) u) :
    s.newlyMarked u = [.text id] := by
  obtain ⟨-, rfl⟩ := h.wrote (by simp [Change.isOfCourse]) found
  refine newlyMarked_eq_singleton ((MemoryStore.names_advance found).symm ▸ nodup) fun other => ?_
  have none : s.bears (.text id) = false := by
    rw [bears_of_holds (MemoryStore.holds_of_order? found), unmarked]
  rw [bears_advance]
  split
  next same =>
    subst same
    simpa [Change.mark, Value.truthy] using none
  next ne => simp [Ne.symm ne]

/-- Adjusting the stock takes the lines of an order out and marks it, unless it bears the mark. -/
theorem replayed_adjustment (nodup : s.orders.names.Nodup) (counted : Counted s.products)
    (quantities : ∀ l ∈ o.lines, ∃ n, l.quantity = .count n) (named : o.id = .text id)
    (holds : s.Holds id o status o.stockAdjusted) (h : Adjustment (Undisturbed now) o s ms v) :
    Replayed s ms v ∧ ∀ key, key ≠ .text id → v.orders.get? key = s.orders.get? key := by
  cases h with
  | skipped marked => exact ⟨compositional_replayed.nil s, fun _ _ => rfl⟩
  | @made u _ ms _ reply unmarked lines mark =>
    rw [named] at mark ⊢
    -- Taking the lines out leaves the orders alone, so the ledger write is the step that marks.
    have still := along_adjustLines (lines.mono fun _ _ _ carried => carried.disturbed)
    obtain ⟨left, -⟩ := runs_adjustLines_undisturbed counted quantities lines
    have orders : u.orders = s.orders := by rw [left]
    have ordered := lines_of_holds holds
    obtain ⟨o', found, -, -, same⟩ := holds
    rw [MemoryStore.order?, ← orders] at found
    obtain ⟨-, step⟩ := mark.wrote (by simp [Change.isOfCourse]) found
    have all : marks s (states ms ++ [v]) = [.text id] := by
      have none := marks_eq_nil (still.mono fun t u same key => by
        rw [MemoryStore.bears, same, MemoryStore.bears])
      have last := newlyMarked_ledger (orders ▸ nodup) found (same ▸ unmarked) mark
      rw [marks_append still, none, marks, last]
      rfl
    refine ⟨⟨?_, ?_⟩, fun key ne => ?_⟩
    · rw [states_append]
      refine Along.append (still.mono fun t u same key => ?_) ⟨fun key => ?_, rfl⟩
      · rw [MemoryStore.lines, same, MemoryStore.lines]
      · rw [step]
        exact lines_advance (by simp [Change.isOfCourse]) found
    · have replayed : s.replay [.text id] = o.lines.foldl takeOut s.products := by
        rw [← ordered]
        rfl
      rw [states_append, states_cons, states_nil, all, replayed, step,
        MemoryStore.products_advance, left]
    · rw [step, MemoryStore.get?_advance, if_neg (Ne.symm ne), orders]

/-! ### Processing -/

/-- Where a steady step comes first, the rest of a stretch is recorded as before. -/
theorem Recorded.cons {e : DeskEvent} (first : Steady id s u) (rest : Recorded id o u ms v) :
    Recorded id o s ((e, u) :: ms) v where
  replayed :=
    have step : Replayed s [(e, u)] u := replayed_of_steady id ⟨first, rfl⟩
    step.append rest.replayed
  others key ne := (rest.others key ne).trans (first.others key ne)
  completed := rest.completed

theorem steady_of_aside {e : DeskEvent} (h : Undisturbed now s e u) (aside : ∀ c, e.1 ≠ .store c) :
    Steady id s u := by
  obtain rfl := h.disturbed.aside aside
  exact .refl id u

/-- The last steps take the lines of an order out of the stock, mark it and complete it. -/
theorem closing_undisturbed {success : Bool} (nodup : s.orders.names.Nodup)
    (counted : Counted s.products) (quantities : ∀ l ∈ o.lines, ∃ n, l.quantity = .count n)
    (named : o.id = .text id) (holds : s.Holds id o status o.stockAdjusted)
    (h : Closing (Undisturbed now) o s ms success v) : success = true ∧ Recorded id o s ms v := by
  cases h with
  | uncompleted adjusted completed refused =>
    obtain ⟨-, holds⟩ := adjustment_undisturbed counted quantities named holds adjusted
    rw [named] at completed
    rw [completed.accepts (by simp) holds] at refused
    cases refused
  | completed adjusted completed accepted told =>
    obtain ⟨replayed, others⟩ := replayed_adjustment nodup counted quantities named holds adjusted
    obtain ⟨-, holds⟩ := adjustment_undisturbed counted quantities named holds adjusted
    rw [named] at completed told ⊢
    have done := (completed.disturbed.accepted (by simp) accepted holds).1
    have steady := steady_marked completed
    obtain rfl := told.disturbed.aside (by simp)
    refine ⟨rfl, replayed.append (replayed_of_steady id ?_),
      fun key ne => (steady.others key ne).trans (others key ne), _, done⟩
    exact ⟨steady, .refl id v, rfl⟩

/-- The way of an order through the steps is steady, or it is recorded and comes to the end. -/
theorem passage_undisturbed {success : Bool} (nodup : s.orders.names.Nodup) (ready : s.Ready id o)
    (h : Passage (Undisturbed now) now o s ms success v) :
    Along (Steady id) s (states ms) v ∧ success = false ∨
      Recorded id o s ms v ∧ success = true := by
  have named := ready.named
  cases h with
  | unvalidated validated =>
    rw [named] at validated
    exact .inl ⟨⟨steady_validated validated, rfl⟩, rfl⟩
  | unmarked validated _ marked =>
    rw [named] at validated marked
    exact .inl ⟨⟨steady_validated validated, steady_marked marked, rfl⟩, rfl⟩
  | unprinted validated _ marked _ printed =>
    rw [named] at validated marked
    exact .inl ⟨⟨steady_validated validated, steady_marked marked,
      steady_of_aside printed (by simp), rfl⟩, rfl⟩
  | printed receipt validated accepted marked accepted' printed confirmed closing =>
    rw [named] at validated marked ⊢
    have first := steady_validated validated
    have second := steady_marked marked
    obtain ⟨holds, products⟩ := Disturbed.opened (MemoryStore.holds_of_order? ready.found)
      validated.disturbed accepted marked.disturbed accepted'
    obtain rfl := printed.disturbed.aside (by simp)
    obtain rfl := confirmed.disturbed.aside (by simp)
    obtain ⟨rfl, recorded⟩ := closing_undisturbed ((first.trans second).names ▸ nodup)
      (products ▸ ready.stocked) ready.quantities named holds closing
    exact .inr ⟨.cons first (.cons second (.cons (.refl id _) (.cons (.refl id _) recorded))), rfl⟩

theorem attempt_undisturbed {success : Bool} (nodup : s.orders.names.Nodup) (ready : s.Ready id o)
    (h : Attempt (Undisturbed now) now o (.text id) s ms success v) :
    Along (Steady id) s (states ms) v ∨ Recorded id o s ms v := by
  cases h with
  | passed passage => exact (passage_undisturbed nodup ready passage).imp (·.1) (·.1)
  | undone r passage undo =>
    obtain ⟨steady, -⟩ | ⟨-, succeeds⟩ := passage_undisturbed nodup ready passage
    · rw [states_append]
      exact .inl (steady.append ⟨steady_marked undo, rfl⟩)
    · cases succeeds

theorem concludes_of_bears (same : ∀ key, u.bears key = s.bears key) : Concludes s u := by
  intro key o unmarked found marked
  rw [← same, bears_eq_true.mpr ⟨o, found, marked⟩] at unmarked
  cases unmarked

theorem compositional_concluded : Compositional fun s _ v => Concluded s v where
  nil _ := ⟨fun _ _ found _ => found, concludes_of_bears fun _ => rfl⟩
  idle _ _ _ := ⟨fun _ _ found _ => found, concludes_of_bears fun _ => rfl⟩
  append {s u v _ _} first second := by
    refine ⟨fun key o found done => second.kept key o (first.kept key o found done) done, ?_⟩
    intro key o unmarked found marked
    cases between : u.bears key with
    | false => exact second.concludes key o between found marked
    | true =>
      -- It was completed in the first stretch, and has been left alone since.
      obtain ⟨o', found', marked'⟩ := bears_eq_true.mp between
      have done := first.concludes key o' unmarked found' marked'
      rw [second.kept key o' found' done] at found
      cases found
      exact done

/-- An attempt at an open order leaves completed orders alone, and completes what it marks. -/
theorem concluded_of_others (found : s.order? id = some o) (isOpen : o.status.IsOpen)
    (others : ∀ key, key ≠ .text id → v.orders.get? key = s.orders.get? key)
    (ended : (∀ key, v.bears key = s.bears key) ∨ ∃ mark, v.Holds id o .completed mark) :
    Concluded s v where
  kept key o' found' done := by
    rw [others key, found']
    -- The order itself is open, so it is none of the completed ones.
    rintro rfl
    rw [MemoryStore.order?, found'] at found
    cases found
    simp [Status.IsOpen, done] at isOpen
  concludes := by
    rcases ended with same | ⟨mark, o'', found'', -, done, -⟩
    · exact concludes_of_bears same
    · intro key o' unmarked found' marked
      by_cases own : key = .text id
      · subst own
        rw [MemoryStore.order?, found'] at found''
        cases found''
        exact done
      · rw [others key own] at found'
        rw [bears_eq_true.mpr ⟨o', found', marked⟩] at unmarked
        cases unmarked

/-- Processing an order replays its mark, and completes it if it gets the mark. -/
theorem process_undisturbed {a : Except Failure Report} (proper : s.Proper)
    (h : Runs (Undisturbed now) (process now settings (.text id)) s ms a v) :
    Replayed s ms v ∧ Concluded s v := by
  obtain ⟨-, still, rfl⟩ | ⟨o, success, ms₁, ns, found, isOpen, -, rfl, -, still, attempt⟩ :=
    course_disturbed (fun _ _ _ => Undisturbed.disturbed) h
  · exact ⟨replayed_of_steady id (along_of_still (.refl id) still), compositional_concluded.nil v⟩
  have reads : Replayed s ms₁ s := replayed_of_steady id (along_of_still (.refl id) still)
  obtain steady | recorded := attempt_undisturbed proper.names (proper.ready found) attempt
  · have whole := (steady.rel (.refl id) .trans).1
    exact ⟨reads.append (replayed_of_steady id steady),
      concluded_of_others found isOpen whole.others (.inl whole.bears)⟩
  · exact ⟨reads.append recorded.replayed,
      concluded_of_others found isOpen recorded.others (.inr recorded.completed)⟩

/-- Calling off an order is steady. -/
theorem cancel_undisturbed {reason : Value} {success : Bool}
    (h : Runs (Undisturbed now) (cancel now settings (.text id) reason) s ms success v) :
    Along (Steady id) s (states ms) v := by
  have step {r u} (calledOff : Undisturbed now s (wrote (.text id) .cancelled
      [.cancelledAt (.timestamp now), .cancellationReason (reasonOr settings reason)] r) u) :
      Steady id s u :=
    steady_wrote (by simp [Change.isOfCourse]) (by exact fun _ => rfl) calledOff
  cases callingOff_of_runs h with
  | refused calledOff => exact ⟨step calledOff, rfl⟩
  | told calledOff accepted told => exact ⟨step calledOff, steady_of_aside told (by simp), rfl⟩

/-! ### Sessions -/

/-- An operation completes the orders that it marks. -/
theorem concludes_operation {op : Operation} (proper : s.Proper)
    (h : Runs (Undisturbed now) (op.program now settings) s ms () v) : Concludes s v := by
  cases op with
  | process id =>
    obtain ⟨a, work, -⟩ := runs_map_iff.mp h
    exact (process_undisturbed proper work).2.concludes
  | cancel id reason =>
    obtain ⟨a, work, -⟩ := runs_map_iff.mp h
    exact concludes_of_bears ((cancel_undisturbed work).rel (.refl id) .trans).1.bears
  | batch =>
    obtain ⟨a, work, -⟩ := runs_map_iff.mp h
    exact (batch_induction (fun _ _ _ => Undisturbed.disturbed) compositional_concluded
      (fun proper run => (process_undisturbed proper run).2) proper work).concludes

variable {calls : List (Timestamp × Operation)} {mss : List (List (DeskMoment MemoryStore))}

theorem concludes_session (proper : s.Proper) (h : Session Undisturbed settings s calls mss v) :
    Along Concludes s (ends s mss) v := by
  induction h with
  | done s => rfl
  | next work _ ih =>
    have along := later_operation (fun _ _ _ => Undisturbed.disturbed) proper work
    have later := Later.of_along along
    rw [ends, along.last]
    exact ⟨concludes_operation proper work, ih (later.proper proper)⟩

theorem Later.solvent (h : Later s u) (solvent : s.Solvent) : u.Solvent := by
  intro key p' there
  obtain ⟨p, there', shrinks⟩ := h.product_before there
  obtain ⟨m, stock, nonneg⟩ := solvent key p there'
  obtain ⟨m', stock', -, nonneg'⟩ := shrinks.stock m stock
  exact ⟨m', stock', nonneg' nonneg⟩

/-- Where there is nothing at least of each product, what leads later dwindles. -/
theorem dwindles_of_later (solvent : s.Solvent) (h : Along Later s us v) :
    Along Dwindles s us v := by
  induction us generalizing s with
  | nil => exact h
  | cons u us ih =>
    refine ⟨⟨fun key => h.1.bears, fun key p' there => ?_⟩, ih (h.1.solvent solvent) h.2⟩
    obtain ⟨p, there', shrinks⟩ := h.1.product_before there
    obtain ⟨m, stock, nonneg⟩ := solvent key p there'
    obtain ⟨m', stock', le, nonneg'⟩ := shrinks.stock m stock
    exact ⟨p, m, m', there', stock, stock', nonneg' nonneg, by omega⟩

/-- As long as the store carries out every call, the stock after a session is what is left of the
stock at the beginning when the lines of the orders that have got the ledger mark are taken out,
order by order as they got it, each once. From step to step no mark is lost, and no stock grows or
falls below nothing; and an order that gets the mark is completed at the end of the operation. -/
theorem replay_session (proper : s.Proper) (solvent : s.Solvent)
    (h : Session Undisturbed settings s calls mss v) :
    v.products = s.replay (marks s (states mss.flatten)) ∧
      (marks s (states mss.flatten)).Nodup ∧
      (∀ key, key ∈ marks s (states mss.flatten) ↔ s.bears key = false ∧ v.bears key = true) ∧
      Along Dwindles s (states mss.flatten) v ∧
      Along Concludes s (ends s mss) v := by
  have le (now : Timestamp) (s : MemoryStore) (e : DeskEvent) (u : MemoryStore) :
      Undisturbed now s e u → Disturbed now s e u := Undisturbed.disturbed
  have later := later_session le proper h
  have replayed : Replayed s mss.flatten v :=
    session_induction le compositional_replayed
      (fun proper run => (process_undisturbed proper run).1)
      (fun _ run => replayed_of_steady _ (cancel_undisturbed run)) proper h
  exact ⟨replayed.products, nodup_marks proper.names later, fun key => mem_marks later,
    dwindles_of_later solvent later, concludes_session proper h⟩

theorem solvent_sample {pieces : Int} (ordered : Int) (nonneg : 0 ≤ pieces) :
    (MemoryStore.sample pieces ordered).Solvent := by
  intro key p there
  cases List.mem_singleton.mp (Catalog.get?_eq_some_of_mem there)
  exact ⟨pieces, rfl, nonneg⟩

/-- An order is processed and marked, and then a batch finds nothing to do. -/
theorem replay_session_sample :
    let s := MemoryStore.sample 10 2
    s.Proper ∧ s.Solvent ∧ ∃ mss v,
      Session Undisturbed {} s [(default, .process "order-1"), (default, .batch)] mss v ∧
      Name.Identity.text "order-1" ∈ marks s (states mss.flatten) ∧
      v.products = s.replay (marks s (states mss.flatten)) ∧
      (marks s (states mss.flatten)).Nodup ∧
      (∀ key, key ∈ marks s (states mss.flatten) ↔ s.bears key = false ∧ v.bears key = true) ∧
      Along Dwindles s (states mss.flatten) v ∧
      Along Concludes s (ends s mss) v := by
  intro s
  have le (s : MemoryStore) (e : DeskEvent) (u : MemoryStore)
      (h : Environment.of (MemoryStore.desk default) s e u) : Undisturbed default s e u :=
    (healthy_desk h).undisturbed
  obtain ⟨ms, run, -⟩ :=
    runs_run (MemoryStore.desk default) ((Operation.process "order-1").program default {}) s
  obtain ⟨ms', run', -⟩ := runs_run (MemoryStore.desk default) (Operation.batch.program default {})
    (((Operation.process "order-1").program default {}).run (MemoryStore.desk default) s).2
  have proper : s.Proper := MemoryStore.proper_sample 10 2
  have solvent : s.Solvent := solvent_sample 2 (by decide)
  have session := (Session.single (run.mono le)).append (.single (run'.mono le))
  have replayed := replay_session proper solvent session
  refine ⟨proper, solvent, _, _, session, (replayed.2.2.1 _).mpr ⟨by decide +kernel, ?_⟩, replayed⟩
  decide +kernel

end Fulfilment
