import Fulfilment.Proofs.Agreement
import Fulfilment.Proofs.Session
import Mathlib.Data.Finset.Card
import Mathlib.Data.List.Induction

/-!
# What a census counts

A census counts the orders of a store by their statuses. The store lists only a word for the status
of each order, and the census has to make of these words how many orders there are and how many are
in each status. That it is right rests on what the store keeps up: no identifier is entered twice,
so each order is listed once, with the one status that it has.

This is so in every store that comes about by entering orders and products, by calls, and by
processing orders and calling them off, whatever fails on the way; and it is so for the store in
memory and for the store of tables. Of all that is done to a store, only the entering of an order
under a new identifier changes how many orders there are.

## Main definitions

* `Rehearsal.Store.register`, `Rehearsal.Store.ids` - the orders of a store with their statuses
* `Deed`, `Deed.Does` - what is done to a store, and what may come of it
* `Rehearsal.Store.Reached` - the stores that come about
* `Census.Partitions` - whether a census counts a register

## Main results

* `Census.get?_tally`, `Census.sum_tally` - how often words occur in a list
* `Census.partitions_ofWords` - a census of the words of a register counts it
* `Rehearsal.Store.mem_register_iff` - the register has the statuses that the store has
* `Deed.ids_of_does` - what a deed does to the identifiers of a store
* `Processing.census_partitions` - a census counts the store
-/

namespace Fulfilment

open Program Rehearsal

/-! ### Words in a list -/

namespace Census

variable {words : List String} {word : String}

theorem tally_append (words : List String) (word : String) :
    tally (words ++ [word]) =
      (tally words).put word (((tally words).get? word).getD 0 + 1) := by
  rw [tally, List.foldl_append]
  rfl

theorem nodup_names_tally (words : List String) : (tally words).names.Nodup := by
  induction words using List.reverseRecOn with
  | nil => exact .nil
  | append_singleton words word ih =>
    rw [tally_append]
    exact Catalog.nodup_names_put ih _ _

/-- A word that occurs is counted, and no other one. -/
theorem get?_tally (words : List String) (word : String) :
    (tally words).get? word = if word ∈ words then some (words.count word : Int) else none := by
  induction words using List.reverseRecOn with
  | nil => rfl
  | append_singleton words last ih =>
    rw [tally_append, Catalog.get?_put]
    by_cases same : last = word
    · subst same
      by_cases old : last ∈ words
      · simp [ih, old]
      · simp [ih, old, List.count_eq_zero.mpr old]
    · simp [same, ih, Ne.symm same]

/-- A count that goes up by one adds one to the sum. -/
theorem sum_entries_put (c : Catalog String Int) (name : String) :
    (c.put name ((c.get? name).getD 0 + 1)).entries.sum = c.entries.sum + 1 := by
  induction c with
  | nil => rfl
  | cons e rest ih =>
    obtain ⟨k, n⟩ := e
    simp only [Catalog.put, Catalog.get?_cons, Catalog.entries] at ih ⊢
    by_cases same : (k == name) = true
    · simp [same]
      omega
    · simp [same]
      omega

/-- Each place in the list is counted once. -/
theorem sum_tally (words : List String) : (tally words).entries.sum = words.length := by
  induction words using List.reverseRecOn with
  | nil => rfl
  | append_singleton words word ih =>
    rw [tally_append, sum_entries_put, ih]
    simp

/-! ### The words of a register -/

/-- How many orders are in a status. -/
def counter (c : Census) : Status → Int
  | .pending => c.pending
  | .validated => c.validated
  | .processing => c.processing
  | .completed => c.completed
  | .cancelled => c.cancelled

/-- Whether a census counts orders that are listed with their statuses. -/
structure Partitions (c : Census) (register : List (Name.Identity × Status)) : Prop where
  /-- The total is the number of different identifiers. -/
  total : c.total = (register.map (·.1)).toFinset.card
  /-- A counter is the number of orders in the status. -/
  counters : ∀ status, c.counter status = (register.map (·.2)).count status
  /-- Each order is in one status. -/
  sum : c.total = c.pending + c.validated + c.processing + c.completed + c.cancelled
  /-- No word is counted twice. -/
  names : c.byStatus.names.Nodup
  /-- The words are those of the statuses that occur, with the number of orders in each. -/
  byStatus : ∀ word n, c.byStatus.get? word = some n ↔
    ∃ status, word = status.word ∧ n = (register.map (·.2)).count status ∧ 0 < n
  /-- Each order is counted under one word. -/
  entries : c.total = c.byStatus.entries.sum

variable {statuses : List Status} {register : List (Name.Identity × Status)}

/-- Every status is one of five. -/
theorem length_eq_sum_count (statuses : List Status) :
    statuses.length = statuses.count .pending + statuses.count .validated +
      statuses.count .processing + statuses.count .completed + statuses.count .cancelled := by
  induction statuses with
  | nil => rfl
  | cons status statuses ih => cases status <;> simp [ih] <;> omega

theorem count_word (statuses : List Status) (status : Status) :
    (statuses.map Status.word).count status.word = statuses.count status :=
  List.count_map_of_injective statuses _ (fun _ _ => Status.word_injective) status

theorem counter_ofWords (statuses : List Status) (status : Status) :
    (ofWords (statuses.map Status.word)).counter status = statuses.count status := by
  have counted : ((tally (statuses.map Status.word)).get? status.word).getD 0 =
      (statuses.count status : Int) := by
    rw [get?_tally, count_word]
    split
    next => rfl
    next absent =>
      have none : status ∉ statuses := fun mem => absent (List.mem_map_of_mem mem)
      simp [List.count_eq_zero.mpr none]
  cases status <;> exact counted

theorem get?_byStatus_iff {word : String} {n : Int} :
    (ofWords (statuses.map Status.word)).byStatus.get? word = some n ↔
      ∃ status, word = status.word ∧ n = statuses.count status ∧ 0 < n := by
  have counts : (ofWords (statuses.map Status.word)).byStatus = tally (statuses.map Status.word) :=
    rfl
  rw [counts, get?_tally]
  constructor
  · intro found
    split at found
    next mem =>
      obtain ⟨status, among, rfl⟩ := List.mem_map.mp mem
      obtain rfl := Option.some.inj found
      rw [count_word]
      exact ⟨status, rfl, rfl, mod_cast List.count_pos_iff.mpr among⟩
    next => cases found
  · rintro ⟨status, rfl, rfl, positive⟩
    have among : status ∈ statuses := List.count_pos_iff.mp (mod_cast positive)
    rw [if_pos (List.mem_map_of_mem among), count_word]

/-- Where no identifier occurs twice, a census of the words of a register counts it. -/
theorem partitions_ofWords (nodup : (register.map (·.1)).Nodup) :
    (ofWords ((register.map (·.2)).map Status.word)).Partitions register := by
  have total : (ofWords ((register.map (·.2)).map Status.word)).total = register.length := by
    simp [ofWords]
  have counters := counter_ofWords (register.map (·.2))
  refine ⟨?_, counters, ?_, nodup_names_tally _, fun _ _ => get?_byStatus_iff, ?_⟩
  · rw [total, List.toFinset_card_of_nodup nodup, List.length_map]
  · have whole := length_eq_sum_count (register.map (·.2))
    rw [List.length_map] at whole
    rw [total, whole]
    push_cast
    rw [← counters .pending, ← counters .validated, ← counters .processing,
      ← counters .completed, ← counters .cancelled]
    rfl
  · rw [total]
    exact (by simp : (register.length : Int) = ((register.map (·.2)).map Status.word).length).trans
      (sum_tally _).symm

end Census

/-! ### The register of a store -/

namespace Rehearsal.Store

variable {s u : Store} {now : Timestamp} {o : Order} {e : DeskEvent}

/-- The orders of a store by their identifiers, each with its status. -/
def register : Store → List (Name.Identity × Status)
  | memory s => s.orders.map fun e => (e.1, e.2.status)
  | table s => s.orders.map fun r => (.text r.id, r.status)

/-- The identifiers of the orders of a store. -/
def ids (s : Store) : List Name.Identity := s.register.map (·.1)

theorem ids_memory (s : MemoryStore) : (memory s).ids = s.orders.names := by
  simp [ids, register, Catalog.names]

theorem ids_table (s : TableStore) :
    (table s).ids = (s.orders.map OrderRow.id).map Name.Identity.text := by
  simp [ids, register]

/-- Where no identifier occurs twice, an order is in the register with the status that the store has
for it. -/
theorem mem_register_iff (nodup : s.ids.Nodup) {id : String} {status : Status} :
    (.text id, status) ∈ s.register ↔ s.status? id = some status := by
  cases s with
  | memory s =>
    rw [ids_memory] at nodup
    simp only [register, List.mem_map, status?, Option.map_eq_some_iff, MemoryStore.order?]
    constructor
    · rintro ⟨⟨key, o⟩, mem, same⟩
      cases same
      exact ⟨o, Catalog.get?_of_mem nodup mem, rfl⟩
    · rintro ⟨o, found, rfl⟩
      exact ⟨_, Catalog.get?_eq_some_of_mem found, rfl⟩
  | table s =>
    rw [ids_table] at nodup
    simp only [register, List.mem_map, status?, Option.map_eq_some_iff]
    constructor
    · rintro ⟨r, mem, same⟩
      cases same
      exact ⟨r, TableStore.find?_of_mem nodup.of_map mem, rfl⟩
    · rintro ⟨r, found, rfl⟩
      obtain ⟨mem, rfl⟩ := TableStore.of_find? found
      exact ⟨r, mem, rfl⟩

/-- What is listed are the words of the register. -/
theorem respond_statuses (s : Store) (now : Timestamp) :
    s.respond now .statuses =
      (.ok (.list (((s.register.map (·.2)).map Status.word).map .text)), s) := by
  cases s with
  | memory s =>
    simp [respond, MemoryStore.respond, MemoryStore.statuses, register, Catalog.entries]
  | table s => simp [respond, TableStore.respond, TableStore.statuses, register]

/-- No call enters an order, or takes one away. -/
theorem ids_respond {c : StoreCall} {r : c.Reply} (h : s.respond now c = (r, u)) :
    u.ids = s.ids := by
  cases s with
  | memory s =>
    obtain ⟨u, rfl, carried⟩ := respond_memory.mp h
    simp only [ids_memory]
    cases c with
    | write id status changes =>
      rcases MemoryStore.write_cases carried with ⟨-, rfl⟩ | ⟨name, o, -, found, -, rfl⟩
      · rfl
      · exact Catalog.names_put_of_get? found _
    | setStock id stock => rw [MemoryStore.orders_setStock carried]
    | _ =>
      cases carried
      rfl
  | table s =>
    obtain ⟨u, rfl, carried⟩ := respond_table.mp h
    simp only [ids_table]
    cases c with
    | write id status changes =>
      rcases TableStore.write_cases carried with ⟨-, rfl⟩ | ⟨r, row, -, -, -, rfl⟩
      · rfl
      · rw [TableStore.ids_replace]
    | setStock id stock => rw [TableStore.orders_setStock carried]
    | _ =>
      cases carried
      rfl

theorem ids_of_disturbed (h : Disturbed now s e u) : u.ids = s.ids := by
  rcases h.eq_or_respond with rfl | ⟨c, -, rfl⟩
  · rfl
  · exact ids_respond rfl

/-! ### Entering -/

/-- A row is entered under the text that the identifier of the order is. -/
theorem text_id_of_ofOrder {row : OrderRow} (h : OrderRow.ofOrder now o = .ok row) :
    Column.text o.id = .ok (some row.id) := by
  unfold OrderRow.ofOrder at h
  obtain ⟨total, -, h⟩ := Failure.bind_eq_ok_iff.mp h
  obtain ⟨mark, -, h⟩ := Failure.bind_eq_ok_iff.mp h
  obtain ⟨created, -, h⟩ := Failure.bind_eq_ok_iff.mp h
  obtain ⟨validated, -, h⟩ := Failure.bind_eq_ok_iff.mp h
  obtain ⟨cancelled, -, h⟩ := Failure.bind_eq_ok_iff.mp h
  obtain ⟨id?, named, h⟩ := Failure.bind_eq_ok_iff.mp h
  obtain ⟨name, -, h⟩ := Failure.bind_eq_ok_iff.mp h
  obtain ⟨email, -, h⟩ := Failure.bind_eq_ok_iff.mp h
  obtain ⟨phone, -, h⟩ := Failure.bind_eq_ok_iff.mp h
  obtain ⟨reason, -, h⟩ := Failure.bind_eq_ok_iff.mp h
  obtain ⟨id, present, h⟩ := Failure.bind_eq_ok_iff.mp h
  obtain ⟨total', -, h⟩ := Failure.bind_eq_ok_iff.mp h
  obtain ⟨lines, -, h⟩ := Failure.bind_eq_ok_iff.mp h
  cases h
  cases id? with
  | none => cases present
  | some id' =>
    cases present
    exact named

theorem mem_ids_entered {rows : List OrderRow} {row : OrderRow} {id : String} :
    id ∈ (rows.filter (·.id ≠ row.id) ++ [row]).map OrderRow.id ↔
      id = row.id ∨ id ∈ rows.map OrderRow.id := by
  by_cases same : id = row.id
  · simp [same]
  · simp only [List.map_append, List.mem_append, List.map_cons, List.map_nil,
      List.mem_singleton, same, or_false, false_or, List.mem_map, List.mem_filter,
      decide_eq_true_eq]
    constructor
    · rintro ⟨r, ⟨mem, -⟩, rfl⟩
      exact ⟨r, mem, rfl⟩
    · rintro ⟨r, mem, rfl⟩
      exact ⟨r, ⟨mem, same⟩, rfl⟩

/-- After an order was entered its identifier is there, once, with those that were there before. -/
theorem ids_enter (nodup : s.ids.Nodup) (h : s.enter now o = .ok u) :
    u.ids.Nodup ∧ ∃ key, (∀ id, o.id = .text id → key = .text id) ∧
      u.ids.toFinset = insert key s.ids.toFinset := by
  cases s with
  | memory s =>
    obtain ⟨m, entered, rfl⟩ := Failure.map_eq_ok_iff.mp h
    obtain ⟨key, named, rfl⟩ := Failure.map_eq_ok_iff.mp entered
    rw [ids_memory] at nodup
    simp only [ids_memory]
    refine ⟨Catalog.nodup_names_put nodup _ _, key, ?_, ?_⟩
    · intro id text
      rw [text, Value.identity_text] at named
      exact (Except.ok.inj named).symm
    · rw [Catalog.names_put]
      split
      next has =>
        obtain ⟨other, mem, same⟩ := Catalog.get?_isSome_iff.mp has
        rw [eq_of_beq same] at mem
        rw [Finset.insert_eq_of_mem (List.mem_toFinset.mpr mem)]
      next =>
        ext other
        simp
  | table s =>
    obtain ⟨m, saved, rfl⟩ := Failure.map_eq_ok_iff.mp h
    obtain ⟨-, -, saved⟩ := Failure.bind_eq_ok_iff.mp saved
    obtain ⟨row, made, saved⟩ := Failure.bind_eq_ok_iff.mp saved
    cases saved
    have inj : Function.Injective Name.Identity.text := fun _ _ => Name.Identity.text.inj
    rw [ids_table, List.nodup_map_iff inj] at nodup
    simp only [ids_table]
    refine ⟨(List.nodup_map_iff inj).mpr (TableStore.ids_enter nodup), .text row.id, ?_, ?_⟩
    · intro id text
      have named := text_id_of_ofOrder made
      rw [text] at named
      cases named
      rfl
    · ext other
      rw [List.mem_toFinset, Finset.mem_insert, List.mem_toFinset, List.mem_map, List.mem_map]
      simp only [mem_ids_entered, or_and_right, exists_or, exists_eq_left, eq_comm]

/-- Entering a product leaves the orders alone. -/
theorem ids_enterProduct {p : Product} (h : s.enterProduct p = .ok u) : u.ids = s.ids := by
  cases s with
  | memory s =>
    obtain ⟨m, entered, rfl⟩ := Failure.map_eq_ok_iff.mp h
    obtain ⟨key, -, rfl⟩ := Failure.map_eq_ok_iff.mp entered
    rfl
  | table s =>
    obtain ⟨m, saved, rfl⟩ := Failure.map_eq_ok_iff.mp h
    obtain ⟨before, -, saved⟩ := Failure.bind_eq_ok_iff.mp saved
    cases before <;>
      obtain ⟨row, -, saved⟩ := Failure.bind_eq_ok_iff.mp saved <;>
      cases saved <;> rfl

end Rehearsal.Store

/-! ### What is done to a store -/

/-- What is done to a store: an errand at the store, or an operation at a desk with it. -/
inductive Deed where
  /-- An order or a product is entered, or a call is made. -/
  | errand (e : Errand)
  /-- Orders are processed or called off. -/
  | operation (op : Operation)

/-- Whether a deed may lead from a store to another. At the desk any call may fail. -/
def Deed.Does (now : Timestamp) (settings : OrderSettings) : Deed → Store → Store → Prop
  | errand e, s, u => (s.serve now e).2 = u
  | operation op, s, u => ∃ ms, Runs (Store.Disturbed now) (op.program now settings) s ms () u

/-- The stores that come about from an empty one of either kind. -/
inductive Rehearsal.Store.Reached : Store → Prop
  /-- The empty store in memory. -/
  | memory : Reached (.memory {})
  /-- The empty store of tables. -/
  | table : Reached (.table {})
  /-- Something is done to a store. -/
  | after {now : Timestamp} {settings : OrderSettings} {d : Deed} {s u : Store}
      (before : Reached s) (done : d.Does now settings s u) : Reached u

variable {now : Timestamp} {settings : OrderSettings} {s u : Store} {d : Deed}

/-- A deed leaves the identifiers as they are, or enters one with an order. -/
theorem Deed.ids_of_does (nodup : s.ids.Nodup) (done : d.Does now settings s u) :
    u.ids = s.ids ∨ u.ids.Nodup ∧ ∃ o key, d = .errand (.enter o) ∧
      (∀ id, o.id = .text id → key = .text id) ∧ u.ids.toFinset = insert key s.ids.toFinset := by
  cases d with
  | operation op =>
    obtain ⟨ms, run⟩ := done
    refine .inl (run.keeps (P := fun t => t.ids = s.ids) ?_ rfl)
    exact fun t e v kept answered => (Store.ids_of_disturbed answered).trans kept
  | errand e =>
    obtain rfl : (s.serve now e).2 = u := done
    cases e with
    | call c => exact .inl (Store.ids_respond rfl)
    | enterProduct p =>
      rw [Store.serve_enterProduct]
      cases entered : s.enterProduct p with
      | error f => exact .inl rfl
      | ok u => exact .inl (Store.ids_enterProduct entered)
    | enter o =>
      rw [Store.serve_enter]
      cases entered : s.enter now o with
      | error f => exact .inl rfl
      | ok u =>
        obtain ⟨once, key, named, new⟩ := Store.ids_enter nodup entered
        exact .inr ⟨once, o, key, rfl, named, new⟩

/-- In the stores that come about no identifier occurs twice. -/
theorem Rehearsal.Store.Reached.nodup (reached : s.Reached) : s.ids.Nodup := by
  induction reached with
  | memory => exact .nil
  | table => exact .nil
  | after _ done ih =>
    rcases Deed.ids_of_does ih done with same | ⟨once, -⟩
    · rwa [same]
    · exact once

namespace Processing

/-- A census leaves the store alone, and counts what it lists, unless the listing fails. -/
theorem census_of_runs {ms : List (DeskMoment Store)} {a : Except Failure (Option Census)}
    {v : Store} (h : Runs (Store.Disturbed now) census s ms a v) :
    v = s ∧ ((∃ f, events ms = [⟨.store .statuses, .error f⟩] ∧ a = .ok none) ∨
      ((∃ w, events ms = [⟨.store .statuses, .ok w⟩]) ∧
        a = .ok (some (.ofWords ((s.register.map (·.2)).map Status.word))))) := by
  obtain ⟨reply, u, ns, answered, rest, rfl⟩ := runs_call_iff.mp h
  rcases answered with carried | ⟨⟨f, rfl⟩, rfl⟩
  · rw [Store.respond_statuses] at carried
    cases carried
    obtain ⟨rfl, rfl, rfl⟩ := runs_done_iff.mp rest
    have readable (ws : List Value) : (Value.list ws).parts = .ok ws := rfl
    have plain (words : List String) : (words.map Value.text).map Value.plain = words := by
      rw [List.map_map]
      exact List.map_id' words
    refine ⟨rfl, .inr ⟨⟨_, rfl⟩, ?_⟩⟩
    rw [readable, Except.map, plain]
  · obtain ⟨rfl, rfl, rfl⟩ := runs_done_iff.mp rest
    exact ⟨rfl, .inl ⟨f, rfl, rfl⟩⟩

/-- **What a census counts.** In every store that comes about, of either kind, a census leaves the
store alone. If the listing does not fail, it counts the orders: the total is the number of
identifiers, the counters and the words partition them by their statuses, and the words are those of
the statuses that occur. Whatever is done next, whatever fails, the identifiers stay the same unless
an order is entered under a new one, which is one more. -/
theorem census_partitions (reached : s.Reached) (now : Timestamp) (settings : OrderSettings) :
    (∀ ms a v, Runs (Store.Disturbed now) census s ms a v →
      v = s ∧ ((∃ f, events ms = [⟨.store .statuses, .error f⟩] ∧ a = .ok none) ∨
        (∃ w, events ms = [⟨.store .statuses, .ok w⟩]) ∧
          ∃ c, a = .ok (some c) ∧ c.Partitions s.register)) ∧
    ∀ (d : Deed) u, d.Does now settings s u →
      u.ids.toFinset = s.ids.toFinset ∨
        ∃ o key, d = .errand (.enter o) ∧ (∀ id, o.id = .text id → key = .text id) ∧
          key ∉ s.ids ∧ u.ids.toFinset = insert key s.ids.toFinset ∧
          u.ids.toFinset.card = s.ids.toFinset.card + 1 := by
  constructor
  · intro ms a v h
    obtain ⟨same, failed | ⟨listed, rfl⟩⟩ := census_of_runs h
    · exact ⟨same, .inl failed⟩
    · exact ⟨same, .inr ⟨listed, _, rfl, Census.partitions_ofWords reached.nodup⟩⟩
  · intro d u done
    rcases Deed.ids_of_does reached.nodup done with same | ⟨-, o, key, rfl, named, entered⟩
    · exact .inl (by rw [same])
    by_cases old : key ∈ s.ids
    · left
      rw [entered, Finset.insert_eq_of_mem (List.mem_toFinset.mpr old)]
    · refine .inr ⟨o, key, rfl, named, old, entered, ?_⟩
      rw [entered, Finset.card_insert_of_notMem (mt List.mem_toFinset.mp old)]

/-- In a store of tables an order is entered twice, and then cancelled. The order that was entered
again is the last one, and counted once. Calling off another order will not change the total. -/
theorem census_partitions_sample :
    let o (id : String) : Order := { id := .text id, customerName := "", customerEmail := "" }
    let s : Store := [.enter (o "order-1"), .enter (o "order-2"), .enter (o "order-1"),
      .call (.write "order-1" .cancelled [])].foldl (fun t e => (t.serve default e).2) (.table {})
    s.Reached ∧ ∃ ms c, Runs (Store.Disturbed default) census s ms (.ok (some c)) s ∧
      c.total = 2 ∧ c.byStatus = [("pending", 1), ("cancelled", 1)] ∧ c.Partitions s.register ∧
      ∀ u, (Deed.operation (.cancel "order-2" .null)).Does default {} s u →
        u.ids.toFinset = s.ids.toFinset := by
  intro o s
  have reached : s.Reached := by
    have each (es : List Errand) (t : Store) (before : t.Reached) :
        (es.foldl (fun t e => (t.serve default e).2) t).Reached := by
      induction es generalizing t with
      | nil => exact before
      | cons e es ih =>
        have done : (Deed.errand e).Does default {} t (t.serve default e).2 := rfl
        exact ih _ (before.after done)
    exact each _ _ .table
  obtain ⟨counts, kept⟩ := census_partitions reached default {}
  have run : Runs (Store.Disturbed default) census s _ _ s :=
    .call (.inl (Store.respond_statuses s default)) (.done _ _)
  obtain ⟨-, ⟨f, failed, -⟩ | ⟨-, c, counted, partitions⟩⟩ := counts _ _ _ run
  · cases failed
  obtain ⟨-, ⟨f, failed, -⟩ | ⟨-, listed⟩⟩ := census_of_runs run
  · cases failed
  rw [counted] at run listed
  cases listed
  refine ⟨reached, _, _, run, by decide +kernel, by decide +kernel, partitions, fun u done => ?_⟩
  rcases kept _ u done with same | ⟨_, _, entering, -⟩
  · exact same
  · cases entering

end Processing

end Fulfilment
