import Fulfilment.Proofs.Amounts
import Fulfilment.Proofs.Stores
import Mathlib.Data.List.Forall2

/-!
# Orders and their rows

An order that is read back from a row is not the order that was entered: times have lost their
offset, and amounts are rounded to hundredths. In everything else it is, and it stays so when the
same status and the same changes are written to both.

## Main definitions

* `Order.WellFormed`, `Change.WellFormed` - orders and changes whose members are of the kinds that
  they should be
* `Order.Matches` - how an order that is read back from a row agrees with the order

## Main results

* `OrderRow.ofOrder_of_wellFormed` - an order that is entered into both stores
* `OrderRow.written_of_wellFormed` - a status that is written in both stores
-/

namespace Fulfilment

/-- A time without its offset, and any other value as it is. -/
def Value.withoutOffset : Value → Value
  | .timestamp t => .timestamp t.withoutOffset
  | v => v

/-! ### What is well-formed -/

/-- A line that names a product by texts, and orders a number of pieces that fits into 64 binary
digits for an amount. -/
structure Line.WellFormed (l : Line) : Prop where
  productId : ∃ s, l.productId = .text s
  productName : ∃ s, l.productName = .text s
  quantity : ∃ n, l.quantity = .count n ∧ isWord n = true
  unitPrice : l.unitPrice.IsAmount

/-- An order whose members are of the kinds that they should be. There need not be a telephone
number, a reason, or any of the times. -/
structure Order.WellFormed (o : Order) : Prop where
  id : ∃ s, o.id = .text s
  customerName : ∃ s, o.customerName = .text s
  customerEmail : ∃ s, o.customerEmail = .text s
  customerPhone : ∃ s?, o.customerPhone = .ofText? s?
  lines : ∀ l ∈ o.lines, l.WellFormed
  total : ∃ d, o.total = .decimal d ∧ d.IsAmount
  createdAt : ∃ t?, o.createdAt = .ofTimestamp? t?
  validatedAt : ∃ t?, o.validatedAt = .ofTimestamp? t?
  cancelledAt : ∃ t?, o.cancelledAt = .ofTimestamp? t?
  cancellationReason : ∃ s?, o.cancellationReason = .ofText? s?
  stockAdjusted : ∃ b, o.stockAdjusted = .bool b

/-- Whether a change belongs to the course that an order takes, and gives the member a value of its
kind. -/
def Change.WellFormed : Change → Prop
  | .validatedAt time | .cancelledAt time => ∃ t?, time = .ofTimestamp? t?
  | .cancellationReason reason => ∃ s?, reason = .ofText? s?
  | .stockAdjusted adjusted => ∃ b, adjusted = .bool b
  | _ => False

/-! ### What matches -/

/-- How a line that is read back from a row agrees with the line. -/
structure Line.Matches (l l' : Line) : Prop where
  productId : l'.productId = l.productId
  productName : l'.productName = l.productName
  quantity : l'.quantity = l.quantity
  /-- The price is the same, where it is a whole number of hundredths. -/
  unitPrice : ∀ k, l.unitPrice.hundredths? = some k → l'.unitPrice.hundredths? = some k

/-- How an order that is read back from a row agrees with the order. An order that is entered
without a time of entry gets it from the clock of each store, so there the times of entry are only
as near to one another as the clocks are. -/
structure Order.Matches (near : Timestamp → Timestamp → Prop) (o o' : Order) : Prop where
  id : o'.id = o.id
  customerName : o'.customerName = o.customerName
  customerEmail : o'.customerEmail = o.customerEmail
  customerPhone : o'.customerPhone = o.customerPhone
  lines : List.Forall₂ Line.Matches o.lines o'.lines
  /-- The total is the same, where it is a whole number of hundredths. -/
  total : ∀ d k, o.total = .decimal d → d.hundredths? = some k →
    ∃ d', o'.total = .decimal d' ∧ d'.hundredths? = some k
  status : o'.status = o.status
  /-- It was entered at the same local time, or at one that is near. -/
  createdAt : ∃ t t', o.createdAt = .timestamp t ∧ o'.createdAt = .timestamp t'.withoutOffset ∧
    (t' = t ∨ near t t')
  validatedAt : o'.validatedAt = o.validatedAt.withoutOffset
  cancelledAt : o'.cancelledAt = o.cancelledAt.withoutOffset
  cancellationReason : o'.cancellationReason = o.cancellationReason
  stockAdjusted : o'.stockAdjusted = o.stockAdjusted

variable {near : Timestamp → Timestamp → Prop} {now now' : Timestamp} {status : Status}
  {changes : List Change} {c : Change} {o : Order} {r : OrderRow} {l : Line} {ls : List Line}

/-! ### Values in columns -/

namespace Value

@[simp] theorem withoutOffset_ofTimestamp? (t? : Option Timestamp) :
    (ofTimestamp? t?).withoutOffset = ofTimestamp? (t?.map Timestamp.withoutOffset) := by
  cases t? <;> rfl

@[simp] theorem withoutOffset_idem (v : Value) :
    v.withoutOffset.withoutOffset = v.withoutOffset := by
  cases v <;> rfl

/-- A time that comes from a column has no offset. -/
theorem eq_withoutOffset_of_eq {v w : Value} (h : v = w.withoutOffset) : v = v.withoutOffset := by
  rw [h, withoutOffset_idem]

theorem ofTimestamp?_same {t? u? : Option Timestamp} :
    (ofTimestamp? t?).same (ofTimestamp? u?) = true ↔ t? = u? := by
  cases t? <;> cases u? <;> simp [ofTimestamp?, same, sameLeaf, number?]

theorem ofText?_same {s? t? : Option String} :
    (ofText? s?).same (ofText? t?) = true ↔ s? = t? := by
  cases s? <;> cases t? <;> simp [ofText?, same, sameLeaf, number?]

theorem bool_same {a b : Bool} : (bool a).same (bool b) = true ↔ a = b := by
  cases a <;> cases b <;> decide

end Value

namespace Column

@[simp] theorem time_ofTimestamp? (t? : Option Timestamp) :
    time (.ofTimestamp? t?) = .ok (t?.map Timestamp.withoutOffset) := by
  cases t? <;> rfl

@[simp] theorem text_ofText? (s? : Option String) : text (.ofText? s?) = .ok s? := by
  cases s? <;> rfl

end Column

/-! ### An order that is entered -/

theorem LineRow.ofLine_of_wellFormed (h : l.WellFormed) :
    ∃ row, LineRow.ofLine l = .ok row ∧ l.Matches row.line := by
  obtain ⟨⟨pid, productId⟩, ⟨name, productName⟩, ⟨n, quantity, word⟩, amount⟩ := h
  obtain ⟨b, held, back⟩ := Column.amount_of_isAmount amount
  refine ⟨⟨pid, name, .count n, b⟩, ?_, ?_⟩
  · simp only [ofLine, held, productId, productName, quantity, Column.text_text,
      Column.integer_count word]
    rfl
  · exact ⟨productId.symm, productName.symm, quantity.symm, back⟩

theorem LineRow.ofLines_of_wellFormed (h : ∀ l ∈ ls, l.WellFormed) :
    ∃ rows, LineRow.ofLines ls = .ok rows ∧
      List.Forall₂ Line.Matches ls (rows.map LineRow.line) := by
  have prices : ls.forM (fun l => (Column.amount l.unitPrice).map fun _ => ()) = .ok () := by
    refine Failure.forM_eq_ok fun l mem => ?_
    obtain ⟨b, held, -⟩ := Column.amount_of_isAmount (h l mem).unitPrice
    rw [held]
    rfl
  have each : ∃ rows, ls.mapM ofLine = .ok rows ∧
      List.Forall₂ Line.Matches ls (rows.map LineRow.line) := by
    clear prices
    induction ls with
    | nil => exact ⟨[], rfl, .nil⟩
    | cons l ls ih =>
      obtain ⟨row, first, fits⟩ := ofLine_of_wellFormed (h l List.mem_cons_self)
      obtain ⟨rows, others, fit⟩ := ih fun l' mem => h l' (List.mem_cons_of_mem l mem)
      refine ⟨row :: rows, ?_, .cons fits fit⟩
      rw [List.mapM_cons, first, others]
      rfl
  obtain ⟨rows, each, fit⟩ := each
  -- The prices of all lines are looked at before the first line is turned into a row.
  exact ⟨rows, Failure.bind_eq_ok_iff.mpr ⟨(), prices, each⟩, fit⟩

theorem MemoryStore.entered_eq {t? : Option Timestamp} (h : o.createdAt = .ofTimestamp? t?) :
    entered now o = { o with createdAt := .timestamp (t?.getD now) } := by
  unfold entered
  cases t? with
  | none => simp [h, Value.ofTimestamp?]
  | some t =>
    rw [h]
    obtain ⟨⟩ := o
    cases h
    rfl

/-- An order that is entered into both stores, by the clock of each. -/
theorem OrderRow.ofOrder_of_wellFormed {key : String} (h : o.WellFormed) (named : o.id = .text key)
    (clocks : near now now') : ∃ row, OrderRow.ofOrder now' o = .ok row ∧ row.id = key ∧
      (MemoryStore.entered now o).Matches near row.order := by
  obtain ⟨name, customerName⟩ := h.customerName
  obtain ⟨email, customerEmail⟩ := h.customerEmail
  obtain ⟨phone?, customerPhone⟩ := h.customerPhone
  obtain ⟨d, total, amount⟩ := h.total
  obtain ⟨created?, createdAt⟩ := h.createdAt
  obtain ⟨validated?, validatedAt⟩ := h.validatedAt
  obtain ⟨cancelled?, cancelledAt⟩ := h.cancelledAt
  obtain ⟨reason?, cancellationReason⟩ := h.cancellationReason
  obtain ⟨mark, stockAdjusted⟩ := h.stockAdjusted
  obtain ⟨b, held, back⟩ := Column.amount_of_isAmount amount
  obtain ⟨rows, lines, fit⟩ := LineRow.ofLines_of_wellFormed h.lines
  refine ⟨{
    id := key
    customerName := some name
    customerEmail := some email
    customerPhone := phone?
    lines := rows
    total := b
    status := o.status
    createdAt := (created?.map Timestamp.withoutOffset).getD now'.withoutOffset
    updatedAt := now'.withoutOffset
    validatedAt := validated?.map Timestamp.withoutOffset
    cancelledAt := cancelled?.map Timestamp.withoutOffset
    cancellationReason := reason?
    stockAdjusted := mark }, ?_, rfl, ?_⟩
  · simp only [ofOrder, named, customerName, customerEmail, customerPhone, total, createdAt,
      validatedAt, cancelledAt, cancellationReason, stockAdjusted, lines, Column.total, held,
      Column.flag_bool, Column.time_ofTimestamp?, Column.text_text, Column.text_ofText?]
    rfl
  · rw [MemoryStore.entered_eq createdAt]
    exact {
      id := named.symm
      customerName := customerName.symm
      customerEmail := customerEmail.symm
      customerPhone := customerPhone.symm
      lines := fit
      total := fun d' k same hundredths => by
        cases total.symm.trans same
        exact ⟨_, rfl, back k hundredths⟩
      status := rfl
      createdAt := by
        refine ⟨created?.getD now, created?.getD now', rfl, ?_, ?_⟩ <;> cases created?
        · rfl
        · rfl
        · exact .inr clocks
        · exact .inl rfl
      validatedAt := by simp [OrderRow.order, validatedAt]
      cancelledAt := by simp [OrderRow.order, cancelledAt]
      cancellationReason := cancellationReason.symm
      stockAdjusted := stockAdjusted.symm }

/-! ### A status that is written -/

theorem Change.WellFormed.isOfCourse (wf : c.WellFormed) : c.isOfCourse = true := by
  cases c with
  | validatedAt | cancelledAt | cancellationReason | stockAdjusted => rfl
  | _ => cases wf

namespace OrderRow

@[simp] theorem contentOf_ok {α : Type} (content : Option α) : contentOf (.ok content) = content :=
  rfl

theorem isChangedBy_withStatus (c : Change) :
    { r with status := status }.isChangedBy c = r.isChangedBy c := by
  cases c <;> rfl

/-- A change is compared with its own member only. -/
theorem isChangedBy_apply {c c' : Change} (other : c.name ≠ c'.name) :
    (r.apply c).isChangedBy c' = r.isChangedBy c' := by
  cases c <;> cases c' <;> first | rfl | exact absurd rfl other

end OrderRow

namespace Order.Matches

/-- A status that is written to both. -/
theorem withStatus (h : o.Matches near r.order) :
    { o with status := status, updatedAt := .timestamp now }.Matches near
      { r with status := status }.order :=
  { h with status := rfl }

/-- The time of the last change does not matter. -/
theorem updated (h : o.Matches near r.order) (t : Timestamp) :
    o.Matches near { r with updatedAt := t }.order :=
  { h with }

/-- A change that is written to both. -/
theorem apply (wf : c.WellFormed) (h : o.Matches near r.order) :
    (o.apply c).Matches near (r.apply c).order := by
  cases c with
  | validatedAt time =>
    obtain ⟨t?, rfl⟩ := wf
    exact { h with validatedAt := by simp [Order.apply, OrderRow.apply, OrderRow.order] }
  | cancelledAt time =>
    obtain ⟨t?, rfl⟩ := wf
    exact { h with cancelledAt := by simp [Order.apply, OrderRow.apply, OrderRow.order] }
  | cancellationReason reason =>
    obtain ⟨s?, rfl⟩ := wf
    exact { h with cancellationReason := by simp [Order.apply, OrderRow.apply, OrderRow.order] }
  | stockAdjusted adjusted =>
    obtain ⟨b, rfl⟩ := wf
    exact { h with stockAdjusted := by simp [Order.apply, OrderRow.apply, OrderRow.order] }
  | _ => cases wf

/-- A change that gives the row no other value is written to the order alone. -/
theorem apply_of_unchanged (wf : c.WellFormed) (unchanged : r.isChangedBy c = false)
    (h : o.Matches near r.order) : (o.apply c).Matches near r.order := by
  cases c with
  | validatedAt time =>
    obtain ⟨t?, rfl⟩ := wf
    have same : r.validatedAt = t? := by
      simpa [OrderRow.isChangedBy, Value.ofTimestamp?_same] using unchanged
    subst same
    exact { h with validatedAt := Value.eq_withoutOffset_of_eq h.validatedAt }
  | cancelledAt time =>
    obtain ⟨t?, rfl⟩ := wf
    have same : r.cancelledAt = t? := by
      simpa [OrderRow.isChangedBy, Value.ofTimestamp?_same] using unchanged
    subst same
    exact { h with cancelledAt := Value.eq_withoutOffset_of_eq h.cancelledAt }
  | cancellationReason reason =>
    obtain ⟨s?, rfl⟩ := wf
    have same : r.cancellationReason = s? := by
      simpa [OrderRow.isChangedBy, Value.ofText?_same] using unchanged
    subst same
    exact { h with cancellationReason := rfl }
  | stockAdjusted adjusted =>
    obtain ⟨b, rfl⟩ := wf
    have same : r.stockAdjusted = b := by
      simpa [OrderRow.isChangedBy, Value.bool_same] using unchanged
    subst same
    exact { h with stockAdjusted := rfl }
  | _ => cases wf

/-- Changes of different members that are written to the order, and to the row as far as they give
it another value. -/
theorem foldl_apply (wf : ∀ c ∈ changes, c.WellFormed) (nodup : (changes.map Change.name).Nodup)
    {base : OrderRow} (asBefore : ∀ c ∈ changes, r.isChangedBy c = base.isChangedBy c)
    (h : o.Matches near r.order) : (changes.foldl Order.apply o).Matches near
      ((changes.filter base.isChangedBy).foldl OrderRow.apply r).order := by
  -- The row is compared with all changes before the first of them is written. `r` is the row on the
  -- way, and the changes that are left give it another value if they gave the first row one.
  induction changes generalizing o r with
  | nil => exact h
  | cons c cs ih =>
    rw [List.map_cons, List.nodup_cons] at nodup
    have wfs (c' : Change) (mem : c' ∈ cs) := wf c' (List.mem_cons_of_mem c mem)
    cases changed : base.isChangedBy c with
    | true =>
      rw [List.filter_cons_of_pos changed]
      refine ih wfs nodup.2 (fun c' mem => ?_) (h.apply (wf c List.mem_cons_self))
      -- The changes that follow are of other members, which this one leaves as they were.
      have other : c.name ≠ c'.name := fun same => nodup.1 (same ▸ List.mem_map_of_mem mem)
      rw [OrderRow.isChangedBy_apply other, asBefore c' (List.mem_cons_of_mem c mem)]
    | false =>
      rw [List.filter_cons_of_neg (by simp [changed])]
      refine ih wfs nodup.2 (fun c' mem => asBefore c' (List.mem_cons_of_mem c mem)) ?_
      have unchanged := (asBefore c List.mem_cons_self).trans changed
      exact h.apply_of_unchanged (wf c List.mem_cons_self) unchanged

end Order.Matches

/-- A well-formed change is never refused. -/
theorem OrderRow.checks_of_wellFormed (wf : c.WellFormed) :
    checkForm c = .ok () ∧ checkHandover c = .ok () ∧ checkPresence c = .ok () := by
  cases c with
  | validatedAt time | cancelledAt time =>
    obtain ⟨t?, rfl⟩ := wf
    simp [checkForm, checkHandover, checkPresence, Except.map]
  | cancellationReason reason =>
    obtain ⟨s?, rfl⟩ := wf
    simp [checkForm, checkHandover, checkPresence, Except.map]
  | stockAdjusted adjusted =>
    obtain ⟨b, rfl⟩ := wf
    simp [checkForm, checkHandover, checkPresence, Except.map]
  | _ => cases wf

/-- A status that is written in both stores, by the clock of each, with changes of different
members. -/
theorem OrderRow.written_of_wellFormed (now now' : Timestamp) (status : Status)
    (wf : ∀ c ∈ changes, c.WellFormed) (nodup : (changes.map Change.name).Nodup)
    (h : o.Matches near r.order) :
    ∃ row, r.written now' status changes = .ok row ∧ row.id = r.id ∧
      (MemoryStore.written now status changes o).Matches near row.order := by
  have checked (c : Change) (mem : c ∈ changes.filter r.isChangedBy) :=
    checks_of_wellFormed (wf c (List.mem_of_mem_filter mem))
  have forms := Failure.forM_eq_ok fun c mem => (checked c mem).1
  have handovers := Failure.forM_eq_ok fun c mem => (checked c mem).2.1
  have presences := Failure.forM_eq_ok fun c mem => (checked c mem).2.2
  have begun : { o with status := status, updatedAt := .timestamp now }.Matches near
    { r with status := status }.order := h.withStatus
  have fits := Order.Matches.foldl_apply wf nodup (fun c _ => isChangedBy_withStatus c) begun
  have kept := (foldl_apply (changes.filter r.isChangedBy) { r with status := status }).1
  -- The time of the last change is set only if the row has changed, which no order shows.
  refine ⟨_, Failure.bind_eq_ok_iff.mpr ⟨(), forms, Failure.bind_eq_ok_iff.mpr ⟨(), handovers,
    Failure.bind_eq_ok_iff.mpr ⟨(), presences, rfl⟩⟩⟩, ?_⟩
  split
  · exact ⟨kept, fits.updated _⟩
  · exact ⟨kept, fits⟩

end Fulfilment
