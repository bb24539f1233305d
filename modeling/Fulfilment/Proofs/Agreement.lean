import Fulfilment.Proofs.Rows
import Mathlib.Data.List.Nodup

/-!
# Two stores that agree

The store in memory and the store of tables answer alike. Whatever orders and products are entered
into both, and whatever is asked of them and written in them afterwards, the same writes succeed,
the same products are found, and an order that is found in one is found in the other, where it
matches. Only the order in which orders are listed may differ, as well as the times at which orders
were entered that do not say so themselves: these are read from the clock of each store.

## Main definitions

* `Errand`, `Rehearsal.Store.serve` - what is asked of a store, and what it replies
* `Errand.Agree` - whether two replies to an errand agree
* `Rehearsal.Store.AgreeOn` - whether two stores agree on errands in a row
* `Corresponds` - whether a store of tables holds what a store in memory holds

## Main results

* `Corresponds.serve` - corresponding stores agree on an errand and correspond after it
* `stores_agree` - two empty stores agree on errands in a row
-/

namespace Fulfilment

/-! ### Errands -/

/-- What is asked of a store: to enter an order or a product, or to answer a call. -/
inductive Errand where
  | enter (o : Order)
  | enterProduct (p : Product)
  | call (c : StoreCall)

/-- What is replied to an errand. -/
abbrev Errand.Reply : Errand → Type
  | enter _ => Except Failure Unit
  | enterProduct _ => Except Failure Unit
  | call c => c.Reply

namespace Rehearsal.Store

/-- The reply to an attempt to enter something, which leaves the store as it was if it fails. -/
def settle (s : Store) : Except Failure Store → Except Failure Unit × Store
  | .ok u => (.ok (), u)
  | .error f => (.error f, s)

/-- The reply of a store to an errand, and the store after it. -/
def serve (now : Timestamp) : (e : Errand) → Store → e.Reply × Store
  | .enter o, s => s.settle (s.enter now o)
  | .enterProduct p, s => s.settle (s.enterProduct p)
  | .call c, s => s.respond now c

variable {now : Timestamp} {s : Store}

theorem serve_enter (o : Order) : s.serve now (.enter o) = s.settle (s.enter now o) := rfl

theorem serve_enterProduct (p : Product) :
    s.serve now (.enterProduct p) = s.settle (s.enterProduct p) := rfl

end Rehearsal.Store

/-- A product whose members are of the kinds that they should be. -/
structure Product.WellFormed (p : Product) : Prop where
  id : ∃ s, p.id = .text s
  name : ∃ s, p.name = .text s
  stock : ∃ n, p.stock = .count n ∧ isWord n = true

/-- Whether an errand names orders and products by texts, and hands over what is well-formed. No
member of an order is written twice at once, and limits are not negative. -/
def Errand.WellFormed : Errand → Prop
  | enter o => o.WellFormed
  | enterProduct p => p.WellFormed
  | call (.find id) => ∃ key, id = .text key
  | call (.write id _ changes) => (∃ key, id = .text key) ∧ (∀ c ∈ changes, c.WellFormed) ∧
      (changes.map Change.name).Nodup
  | call (.product id) => ∃ key, id = .text key
  | call (.setStock id stock) => (∃ key, id = .text key) ∧ ∃ n, stock = .count n ∧ isWord n = true
  | call (.withStatus _ limit) => ∃ n : Nat, limit = .int n
  | call .statuses => True
  | call (.writeUnknown ..) => False
  | call (.withUnknownStatus ..) => False

/-- Whether the replies of the store in memory and of the store of tables to an errand agree. Orders
are listed in an order of their own by each of them, and a limit is refused by the store of tables
if it does not fit into 64 binary digits. -/
def Errand.Agree (near : Timestamp → Timestamp → Prop) : (e : Errand) → e.Reply → e.Reply → Prop
  | enter _, r, r' => r = .ok () ∧ r' = .ok ()
  | enterProduct _, r, r' => r = .ok () ∧ r' = .ok ()
  | call (.find _), r, r' => ∃ found found', r = .ok (.ofOption found) ∧
      r' = .ok (.ofOption found') ∧ Option.Rel (Order.Matches near) found found'
  | call (.write ..), r, r' => ∃ b, r = .ok (.bool b) ∧ r' = .ok (.bool b)
  | call (.product _), r, r' => ∃ found, r = .ok (.ofOption found) ∧ r' = .ok (.ofOption found)
  | call (.setStock ..), r, r' => ∃ b, r = .ok (.bool b) ∧ r' = .ok (.bool b)
  | call (.withStatus _ limit), r, r' => ∃ (n : Nat) (ids ids' : List Value), limit = .int n ∧
      ids.Perm ids' ∧ ids.Nodup ∧ r = .ok (.list (ids.take n)) ∧
      r' = if isWord n then .ok (.list (ids'.take n)) else .error .integerTooLargeForColumn
  | call .statuses, r, r' => ∃ words words' : List Value, words.Perm words' ∧
      r = .ok (.list words) ∧ r' = .ok (.list words')
  | call (.writeUnknown ..), _, _ => False
  | call (.withUnknownStatus ..), _, _ => False

/-- An errand at two stores, each of which has a clock of its own. -/
structure StoreVisit where
  /-- The errand. -/
  errand : Errand
  /-- The time by the clock of the first store. -/
  now : Timestamp
  /-- The time by the clock of the second store. -/
  now' : Timestamp

/-- Whether two stores agree on errands in a row. -/
def Rehearsal.Store.AgreeOn (near : Timestamp → Timestamp → Prop) :
    List StoreVisit → Rehearsal.Store → Rehearsal.Store → Prop
  | [], _, _ => True
  | v :: vs, s, t =>
    v.errand.Agree near (s.serve v.now v.errand).1 (t.serve v.now' v.errand).1 ∧
      AgreeOn near vs (s.serve v.now v.errand).2 (t.serve v.now' v.errand).2

/-! ### Stores that correspond -/

/-- Whether a store of tables holds what a store in memory holds. -/
structure Corresponds (near : Timestamp → Timestamp → Prop) (s : MemoryStore) (t : TableStore) :
    Prop where
  /-- The orders in memory are entered under their identifiers. -/
  identified : s.Identified
  /-- No identifier occurs twice in memory. -/
  names : s.orders.names.Nodup
  /-- No identifier occurs twice in the table. -/
  ids : (t.orders.map OrderRow.id).Nodup
  /-- An order is in memory if it is in the table, and there it matches. -/
  orders : ∀ key : String, Option.Rel (fun o r => o.Matches near r.order) (s.order? key)
    (t.orders.find? (·.id = key))
  /-- The same products are in both. -/
  products : ∀ key : String,
    s.products.get? (.text key) = (t.products.get? key).map ProductRow.product
  /-- The rows of products are entered under their identifiers, and the stocks are whole numbers. -/
  rows : ∀ key r, t.products.get? key = some r → r.id = key ∧ ∃ n, r.stock = .count n

variable {near : Timestamp → Timestamp → Prop} {now now' : Timestamp} {s : MemoryStore}
  {t : TableStore} {o : Order} {p : Product} {key : String} {status : Status}
  {changes : List Change} {stock : Quantity}

theorem corresponds_empty : Corresponds near {} {} where
  identified e mem := absurd mem List.not_mem_nil
  names := .nil
  ids := .nil
  orders _ := .none
  products _ := rfl
  rows key r there := by
    rw [Catalog.get?_nil] at there
    cases there

/-! ### Rows -/

namespace TableStore

variable {rows : List OrderRow} {row : OrderRow}

/-- Where no identifier occurs twice, every row is found under its identifier. -/
theorem find?_of_mem (nodup : (rows.map OrderRow.id).Nodup) (mem : row ∈ rows) :
    rows.find? (·.id = row.id) = some row := by
  induction rows with
  | nil => cases mem
  | cons r rest ih =>
    rw [List.map_cons, List.nodup_cons] at nodup
    rcases List.mem_cons.mp mem with rfl | mem
    · simp
    · have ne : r.id ≠ row.id := fun same => nodup.1 (same ▸ List.mem_map_of_mem mem)
      simp [ne, ih nodup.2 mem]

/-- What is found after the rows of an identifier were removed. -/
theorem find?_remove {id : String} : (rows.filter (·.id ≠ id)).find? (·.id = key) =
    if id = key then none else rows.find? (·.id = key) := by
  induction rows with
  | nil => simp
  | cons r rest ih =>
    by_cases here : r.id = id
    · rw [List.filter_cons_of_neg (by simp [here]), ih]
      split
      · rfl
      next other => simp [here, other]
    · rw [List.filter_cons_of_pos (by simp [here])]
      by_cases found : r.id = key
      · have other : id ≠ key := fun same => here (found.trans same.symm)
        simp [found, other]
      · simpa [found] using ih

/-- What is found after a row was entered as the last one. -/
theorem find?_enter : (rows.filter (·.id ≠ row.id) ++ [row]).find? (·.id = key) =
    if row.id = key then some row else rows.find? (·.id = key) := by
  rw [List.find?_append, find?_remove]
  split
  next same => simp [same]
  next other => simp [other]

theorem ids_enter (nodup : (rows.map OrderRow.id).Nodup) :
    ((rows.filter (·.id ≠ row.id) ++ [row]).map OrderRow.id).Nodup := by
  rw [List.map_append, List.nodup_append]
  refine ⟨nodup.sublist (List.filter_sublist.map _), by simp, ?_⟩
  rintro id mem id' mem' rfl
  obtain ⟨r, among, rfl⟩ := List.mem_map.mp mem
  have other : r.id ≠ row.id := by simpa using (List.mem_filter.mp among).2
  exact other (by simpa using mem')

theorem ids_replace : (t.replace row).orders.map OrderRow.id = t.orders.map OrderRow.id := by
  rw [replace, List.map_map]
  refine List.map_congr_left fun r _ => ?_
  simp only [Function.comp_apply]
  split
  next same => exact same.symm
  next => rfl

@[simp] theorem productRow?_text : t.productRow? (.text key) = .ok (t.products.get? key) := rfl

end TableStore

namespace ProductRow

variable {r : ProductRow} {name : String} {m n : Int}

theorem renamed_text : r.renamed (.text name) = .ok (some name) := by
  unfold renamed
  split
  next same =>
    have same : r.name = name := by simpa [Value.same, Value.sameLeaf] using same
    rw [same]
  next => rfl

theorem restocked_count (stock : r.stock = .count m) (word : isWord n = true) :
    r.restocked (.count n) = .ok (some (.count n)) := by
  unfold restocked
  split
  next same =>
    have same : m = n := by
      simpa [stock, Quantity.document, Value.same, Value.sameLeaf, Value.number?,
        Value.sameNumber] using same
    rw [stock, same]
  next => exact Column.integer_count word

theorem revised_of_wellFormed (named : r.id = key) (stock : r.stock = .count m)
    (word : isWord n = true) :
    r.revised ⟨.text key, .text name, .count n⟩ = .ok ⟨key, name, .count n⟩ := by
  unfold revised
  simp only [renamed_text, restocked_count stock word]
  cases named
  rfl

theorem ofProduct_of_wellFormed (word : isWord n = true) :
    ofProduct ⟨.text key, .text name, .count n⟩ = .ok ⟨key, name, .count n⟩ := by
  simp only [ofProduct, Column.text_text, Column.integer_count word]
  rfl

end ProductRow

namespace Column

theorem boundInt_of_isWord {n : Int} (fits : isWord n = true) : boundInt n = .ok n := by
  unfold boundInt
  exact if_pos fits

theorem boundInt_of_not_isWord {n : Int} (large : ¬ isWord n = true) :
    boundInt n = .error .integerTooLargeForColumn := by
  unfold boundInt
  exact if_neg large

/-- A limit that is not negative is handed over if it fits into a column. -/
theorem limit_int {n : Int} (nonneg : ¬ n < 0) : limit (.int n) =
    if isWord n then .ok (some n.toNat) else .error .integerTooLargeForColumn := by
  by_cases fits : isWord n = true
  · have bound := boundInt_of_isWord fits
    simp only [limit, wholeNumber, bind, Except.bind, bound, if_pos fits, if_neg nonneg]
    rfl
  · have bound := boundInt_of_not_isWord fits
    simp only [limit, wholeNumber, bind, Except.bind, bound, if_neg fits]

end Column

/-! ### Entering -/

namespace Corresponds

/-- An order is in neither store, or in both, where it matches. -/
theorem order_cases (h : Corresponds near s t) (key : String) :
    (s.order? key = none ∧ t.orders.find? (·.id = key) = none) ∨
      ∃ o r, s.order? key = some o ∧ t.orders.find? (·.id = key) = some r ∧
        o.Matches near r.order := by
  have there := h.orders key
  generalize s.order? key = o? at there ⊢
  generalize t.orders.find? (·.id = key) = r? at there ⊢
  cases there with
  | some fits => exact .inr ⟨_, _, rfl, rfl, fits⟩
  | none => exact .inl ⟨rfl, rfl⟩

/-- An order is entered into both stores. -/
theorem enter (h : Corresponds near s t) (wf : o.WellFormed) (clocks : near now now') :
    ∃ s' t', s.enter now o = .ok s' ∧ t.save now' o = .ok t' ∧ Corresponds near s' t' := by
  obtain ⟨key, named⟩ := wf.id
  obtain ⟨row, made, sameId, fits⟩ := OrderRow.ofOrder_of_wellFormed wf named clocks
  have entered : s.enter now o =
      .ok { s with orders := s.orders.put (.text key) (MemoryStore.entered now o) } := by
    rw [MemoryStore.enter, named]
    rfl
  have saved : t.save now' o =
      .ok { t with orders := t.orders.filter (·.id ≠ row.id) ++ [row] } := by
    rw [TableStore.save, named, TableStore.row?_text, made]
    rfl
  refine ⟨_, _, entered, saved, ?_⟩
  exact {
    identified := fun e mem => by
      rcases Catalog.mem_put mem with old | ⟨same, new⟩
      · exact h.identified e old
      · exact ⟨key, eq_of_beq same, by rw [new, ← fits.id, OrderRow.order, sameId]⟩
    names := Catalog.nodup_names_put h.names _ _
    ids := TableStore.ids_enter h.ids
    orders := fun key' => by
      have before := h.orders key'
      rw [MemoryStore.order?] at before ⊢
      rw [TableStore.find?_enter, Catalog.get?_put, sameId]
      by_cases same : key = key'
      · simpa [same] using fits
      · simpa [same] using before
    products := h.products
    rows := h.rows }

/-- The same stock or the same product is put into both stores. -/
theorem put (h : Corresponds near s t) (row : ProductRow) {n : Int} (named : row.id = key)
    (stock : row.stock = .count n) :
    Corresponds near { s with products := s.products.put (.text key) row.product }
      { t with products := t.products.put key row } where
  identified := h.identified
  names := h.names
  ids := h.ids
  orders := h.orders
  products key' := by
    have before := h.products key'
    rw [Catalog.get?_put, Catalog.get?_put]
    by_cases same : key = key'
    · simp [same]
    · simpa [same] using before
  rows key' r there := by
    rw [Catalog.get?_put] at there
    split at there
    next same =>
      cases there
      exact ⟨named.trans (eq_of_beq same), n, stock⟩
    next => exact h.rows key' r there

/-- A product is entered into both stores. -/
theorem enterProduct (h : Corresponds near s t) (wf : p.WellFormed) :
    ∃ s' t', s.enterProduct p = .ok s' ∧ t.saveProduct p = .ok t' ∧ Corresponds near s' t' := by
  obtain ⟨id, name, stock⟩ := p
  obtain ⟨⟨key, rfl⟩, ⟨name, rfl⟩, n, rfl, word⟩ := wf
  have put := h.put ⟨key, name, .count n⟩ rfl rfl
  refine ⟨_, _, rfl, ?_, put⟩
  unfold TableStore.saveProduct
  -- A row that is there is revised in place, and comes to the same as a new one.
  cases there : t.products.get? key with
  | none =>
    simp only [TableStore.productRow?_text, there, bind, Except.bind,
      ProductRow.ofProduct_of_wellFormed word]
    rfl
  | some r =>
    obtain ⟨named, m, stock⟩ := h.rows key r there
    simp only [TableStore.productRow?_text, there, bind, Except.bind,
      ProductRow.revised_of_wellFormed named stock word]
    rfl

/-! ### Writing -/

/-- A status is written in both stores or in neither. -/
theorem write (h : Corresponds near s t) (now now' : Timestamp) (key : String) (status : Status)
    (wf : ∀ c ∈ changes, c.WellFormed) (nodup : (changes.map Change.name).Nodup) : ∃ b s' t',
      s.write now (.text key) status changes = (.ok (.bool b), s') ∧
      t.write now' (.text key) status changes = (.ok (.bool b), t') ∧ Corresponds near s' t' := by
  have course (c : Change) (mem : c ∈ changes) : c.isOfCourse = true := (wf c mem).isOfCourse
  have allowed : Change.refused Change.isOfCourse changes = none :=
    Change.refused_eq_none_iff.mpr course
  rcases h.order_cases key with ⟨found, there⟩ | ⟨o, r, found, there, fits⟩
  · refine ⟨false, s, t, MemoryStore.write_text_of_none found, ?_, h⟩
    simp [TableStore.write, allowed, there]
  · have named : r.id = key := (TableStore.of_find? there).2
    obtain ⟨row, carried, sameId, fits'⟩ :=
      OrderRow.written_of_wellFormed now now' status wf nodup fits
    have inMemory : s.write now (.text key) status changes =
        (.ok (.bool true), s.advance now key status changes o) :=
      MemoryStore.write_text course found
    have inTable : t.write now' (.text key) status changes =
        (.ok (.bool true), t.replace row) := by
      simp [TableStore.write, allowed, there, carried]
    refine ⟨true, _, _, inMemory, inTable, ?_⟩
    exact {
      identified := h.identified.write inMemory
      names := by rw [MemoryStore.names_advance found]; exact h.names
      ids := by rw [TableStore.ids_replace]; exact h.ids
      orders := fun key' => by
        have before := h.orders key'
        rw [MemoryStore.order?] at before ⊢
        rw [MemoryStore.get?_advance, TableStore.find?_replace, sameId, named]
        by_cases same : key = key'
        · subst same
          simpa [there] using fits'
        · simpa [same] using before
      products := h.products
      rows := h.rows }

/-- A stock is written in both stores or in neither. -/
theorem setStock {n : Int} (h : Corresponds near s t) (key : String) (word : isWord n = true) :
    ∃ b s' t', s.setStock (.text key) (.count n) = (.ok (.bool b), s') ∧
      t.setStock (.text key) (.count n) = (.ok (.bool b), t') ∧ Corresponds near s' t' := by
  have same := h.products key
  cases there : t.products.get? key with
  | none =>
    have none : s.products.get? (.text key) = none := by rw [same, there]; rfl
    refine ⟨false, s, t, ?_, ?_, h⟩
    · simp [MemoryStore.setStock, none]
    · simp [TableStore.setStock, there]
  | some r =>
    obtain ⟨named, m, stock⟩ := h.rows key r there
    have some : s.products.get? (.text key) = some r.product := by rw [same, there]; rfl
    have put := h.put { r with stock := .count n } named rfl
    refine ⟨true, _, _, ?_, ?_, put⟩
    · simp [MemoryStore.setStock, some, ProductRow.product]
    · simp [TableStore.setStock, there, ProductRow.restocked_count stock word, Except.bind, named]

/-! ### Asking -/

/-- No identifier occurs twice among the orders in memory. -/
theorem nodup_ids (h : Corresponds near s t) : (s.orders.entries.map Order.id).Nodup := by
  rw [Catalog.entries, List.map_map]
  refine List.pairwise_map.mpr (List.Pairwise.imp_of_mem ?_ (List.pairwise_map.mp h.names))
  intro e e' mem mem' ne same
  obtain ⟨key, text, named⟩ := h.identified e mem
  obtain ⟨key', text', named'⟩ := h.identified e' mem'
  have ids : e.2.id = e'.2.id := same
  rw [named, named', Value.text.injEq] at ids
  exact ne (by rw [text, text', ids])

/-- The orders in both stores with their statuses are the same, but for the order of them. -/
theorem roster (h : Corresponds near s t) :
    (s.orders.entries.map fun o => (o.id, o.status)).Perm
      (t.orders.map fun r => (Value.text r.id, r.status)) := by
  have inMemory : (s.orders.entries.map fun o => (o.id, o.status)).Nodup := by
    refine List.Nodup.of_map Prod.fst ?_
    rw [List.map_map]
    exact h.nodup_ids
  have inTable : (t.orders.map fun r => (Value.text r.id, r.status)).Nodup := by
    refine List.pairwise_map.mpr ((List.pairwise_map.mp h.ids).imp fun ne same => ne ?_)
    exact Value.text.inj (congrArg Prod.fst same)
  -- Neither list has an entry twice, so all that matters is which entries there are.
  refine (List.perm_ext_iff_of_nodup inMemory inTable).mpr fun entry => ?_
  simp only [Catalog.entries, List.map_map, List.mem_map, Function.comp_apply]
  constructor
  · rintro ⟨⟨name, o⟩, mem, rfl⟩
    obtain ⟨key, rfl, named⟩ := h.identified _ mem
    have found : s.order? key = some o := Catalog.get?_of_mem h.names mem
    rcases h.order_cases key with ⟨none, -⟩ | ⟨o', r, found', there, fits⟩
    · cases found.symm.trans none
    · cases found.symm.trans found'
      exact ⟨r, (TableStore.of_find? there).1, Prod.ext fits.id fits.status⟩
  · rintro ⟨r, mem, rfl⟩
    have there := TableStore.find?_of_mem h.ids mem
    rcases h.order_cases r.id with ⟨-, none⟩ | ⟨o, r', found, there', fits⟩
    · cases there.symm.trans none
    · cases there.symm.trans there'
      have entry := Catalog.get?_eq_some_of_mem found
      exact ⟨_, entry, Prod.ext fits.id.symm fits.status.symm⟩

/-- An order is found in both stores or in neither. -/
theorem found (h : Corresponds near s t) (key : String) :
    Option.Rel (Order.Matches near) (s.order? key)
      ((t.orders.find? (·.id = key)).map OrderRow.order) := by
  rcases h.order_cases key with ⟨none, none'⟩ | ⟨o, r, found, there, fits⟩
  · rw [none, none']
    exact .none
  · rw [found, there]
    exact .some fits

/-- The statuses of the orders are the same, but for the order of them. -/
theorem statuses (h : Corresponds near s t) : s.statuses.Perm t.statuses := by
  have words := h.roster.map fun entry => Value.text entry.2.word
  simpa [MemoryStore.statuses, TableStore.statuses, List.map_map, Function.comp_def] using words

/-- The orders in a status are the same, but for the order of them. Each store lists the first of
them, in its own order, unless the limit is too large for a column. -/
theorem withStatus (h : Corresponds near s t) (status : Status) (n : Nat) :
    ∃ ids ids' : List Value, ids.Perm ids' ∧ ids.Nodup ∧
      s.withStatus status (.int n) = .ok (ids.take n) ∧
      t.withStatus status (.int n) =
        if isWord n then .ok (ids'.take n) else .error .integerTooLargeForColumn := by
  let rows := (t.orders.filter (·.status = status)).mergeSort
    fun a b => a.createdAt.localLe b.createdAt
  refine ⟨(s.orders.entries.filter (·.status = status)).map Order.id,
    rows.map fun r => .text r.id, ?_, ?_, ?_, ?_⟩
  -- The table sorts its rows by their times of entry, which only permutes them.
  · have sorted := (List.mergeSort_perm (t.orders.filter (·.status = status))
      fun a b => a.createdAt.localLe b.createdAt).map fun r => Value.text r.id
    have among := (h.roster.filter (·.2 = status)).map Prod.fst
    simp only [List.filter_map, List.map_map] at among
    exact among.trans sorted.symm
  · exact h.nodup_ids.sublist (List.filter_sublist.map _)
  · simp [MemoryStore.withStatus, MemoryStore.limited]
  · rw [TableStore.withStatus, Column.limit_int (by omega), Int.toNat_natCast]
    split <;> rfl

/-! ### Errands in a row -/

/-- Stores that correspond agree on an errand and correspond after it. -/
theorem serve {e : Errand} (h : Corresponds near s t) (wf : e.WellFormed) (clocks : near now now') :
    ∃ r r' s' t', (Rehearsal.Store.memory s).serve now e = (r, .memory s') ∧
      (Rehearsal.Store.table t).serve now' e = (r', .table t') ∧
      e.Agree near r r' ∧ Corresponds near s' t' := by
  cases e with
  | enter o =>
    obtain ⟨s', t', entered, saved, after⟩ := h.enter wf clocks
    refine ⟨.ok (), .ok (), s', t', ?_, ?_, ⟨rfl, rfl⟩, after⟩
    · rw [Rehearsal.Store.serve_enter, Rehearsal.Store.enter, entered]
      rfl
    · rw [Rehearsal.Store.serve_enter, Rehearsal.Store.enter, saved]
      rfl
  | enterProduct p =>
    obtain ⟨s', t', entered, saved, after⟩ := h.enterProduct wf
    refine ⟨.ok (), .ok (), s', t', ?_, ?_, ⟨rfl, rfl⟩, after⟩
    · rw [Rehearsal.Store.serve_enterProduct, Rehearsal.Store.enterProduct, entered]
      rfl
    · rw [Rehearsal.Store.serve_enterProduct, Rehearsal.Store.enterProduct, saved]
      rfl
  | call c =>
    have answered {r : c.Reply} {s' : MemoryStore} (replied : s.respond now c = (r, s')) :
        (Rehearsal.Store.memory s).serve now (.call c) = (r, .memory s') :=
      Rehearsal.Store.respond_memory.mpr ⟨s', rfl, replied⟩
    have answered' {r : c.Reply} {t' : TableStore} (replied : t.respond now' c = (r, t')) :
        (Rehearsal.Store.table t).serve now' (.call c) = (r, .table t') :=
      Rehearsal.Store.respond_table.mpr ⟨t', rfl, replied⟩
    cases c with
    | find id =>
      obtain ⟨key, rfl⟩ := wf
      exact ⟨_, _, s, t, answered rfl, answered' rfl, ⟨_, _, rfl, rfl, h.found key⟩, h⟩
    | write id status changes =>
      obtain ⟨⟨key, rfl⟩, wf, nodup⟩ := wf
      obtain ⟨b, s', t', inMemory, inTable, after⟩ := h.write now now' key status wf nodup
      exact ⟨_, _, s', t', answered inMemory, answered' inTable, ⟨b, rfl, rfl⟩, after⟩
    | product id =>
      obtain ⟨key, rfl⟩ := wf
      refine ⟨_, _, s, t, answered rfl, answered' rfl, ⟨s.products.get? (.text key), rfl, ?_⟩, h⟩
      rw [h.products key]
      rfl
    | setStock id stock =>
      obtain ⟨⟨key, rfl⟩, n, rfl, word⟩ := wf
      obtain ⟨b, s', t', inMemory, inTable, after⟩ := h.setStock key word
      exact ⟨_, _, s', t', answered inMemory, answered' inTable, ⟨b, rfl, rfl⟩, after⟩
    | withStatus status limit =>
      obtain ⟨n, rfl⟩ := wf
      obtain ⟨ids, ids', perm, nodup, inMemory, inTable⟩ := h.withStatus status n
      have listed : (s.withStatus status (.int n)).map Value.list = .ok (.list (ids.take n)) := by
        rw [inMemory]
        rfl
      have listed' : (t.withStatus status (.int n)).map Value.list =
          if isWord n then .ok (.list (ids'.take n)) else .error .integerTooLargeForColumn := by
        rw [inTable]
        split <;> rfl
      exact ⟨_, _, s, t, answered rfl, answered' rfl,
        ⟨n, ids, ids', rfl, perm, nodup, listed, listed'⟩, h⟩
    | statuses =>
      exact ⟨_, _, s, t, answered rfl, answered' rfl, ⟨_, _, h.statuses, rfl, rfl⟩, h⟩
    | writeUnknown => cases wf
    | withUnknownStatus => cases wf

end Corresponds

/-- Stores that correspond agree on errands in a row. -/
theorem agreeOn_of_corresponds {vs : List StoreVisit} (h : Corresponds near s t)
    (wf : ∀ v ∈ vs, v.errand.WellFormed) (clocks : ∀ v ∈ vs, near v.now v.now') :
    Rehearsal.Store.AgreeOn near vs (.memory s) (.table t) := by
  induction vs generalizing s t with
  | nil => trivial
  | cons v vs ih =>
    obtain ⟨r, r', s', t', inMemory, inTable, agree, after⟩ :=
      h.serve (wf v List.mem_cons_self) (clocks v List.mem_cons_self)
    rw [Rehearsal.Store.AgreeOn, inMemory, inTable]
    exact ⟨agree, ih after (fun v' mem => wf v' (List.mem_cons_of_mem v mem))
      fun v' mem => clocks v' (List.mem_cons_of_mem v mem)⟩

/-- Two stores that are empty at the beginning agree on well-formed errands in a row, whatever they
are: what is known of the readings of their clocks is known of the times of entry as well. -/
theorem stores_agree {vs : List StoreVisit} (wf : ∀ v ∈ vs, v.errand.WellFormed)
    (clocks : ∀ v ∈ vs, near v.now v.now') :
    Rehearsal.Store.AgreeOn near vs (.memory {}) (.table {}) :=
  agreeOn_of_corresponds corresponds_empty wf clocks

/-- An order is entered, completed, and found in both stores. -/
theorem stores_agree_sample :
    let order : Order := {
      id := "order-1"
      customerName := "Mona"
      customerEmail := "mona@example.com"
      lines := [⟨"p-1", "Desk Lamp", .count 3, .ofInt 5⟩]
      total := .decimal (.ofInt 15) }
    let errands := [.enter order,
      .call (.write "order-1" .completed [.stockAdjusted (.bool true)]), .call (.find "order-1")]
    let vs := errands.map fun e => StoreVisit.mk e default default
    (∀ v ∈ vs, v.errand.WellFormed) ∧ (∀ v ∈ vs, v.now = v.now') ∧
      Rehearsal.Store.AgreeOn (· = ·) vs (.memory {}) (.table {}) := by
  intro order errands vs
  have orderly : order.WellFormed := {
    id := ⟨_, rfl⟩
    customerName := ⟨_, rfl⟩
    customerEmail := ⟨_, rfl⟩
    customerPhone := ⟨none, rfl⟩
    lines := fun l mem => by
      cases List.mem_singleton.mp mem
      exact ⟨⟨_, rfl⟩, ⟨_, rfl⟩, ⟨3, rfl, by decide⟩, by decide⟩
    total := ⟨_, rfl, by decide⟩
    createdAt := ⟨none, rfl⟩
    validatedAt := ⟨none, rfl⟩
    cancelledAt := ⟨none, rfl⟩
    cancellationReason := ⟨none, rfl⟩
    stockAdjusted := ⟨false, rfl⟩ }
  have wellFormed : ∀ v ∈ vs, v.errand.WellFormed := by
    simp only [vs, errands, List.map_cons, List.map_nil, List.forall_mem_cons]
    have adjusted : ∀ c ∈ [Change.stockAdjusted (.bool true)], c.WellFormed := by
      intro c mem
      cases List.mem_singleton.mp mem
      exact ⟨true, rfl⟩
    exact ⟨orderly, ⟨⟨_, rfl⟩, adjusted, List.nodup_singleton _⟩, ⟨_, rfl⟩, by simp⟩
  have clocks : ∀ v ∈ vs, v.now = v.now' := by
    intro v mem
    obtain ⟨e, -, rfl⟩ := List.mem_map.mp mem
    rfl
  exact ⟨wellFormed, clocks, stores_agree wellFormed clocks⟩

end Fulfilment
