import Fulfilment.Proofs.MemoryDesk

/-!
# Which orders are fit

A review says of an order whether it is fit to process. Over a store in memory this is a property of
the store: the order is in order by itself, and the stock covers each of its lines. A review may go
wrong where a call fails, but it never finds an order fit that is not.

The stock is held against each line by itself. A line is covered if there are as many pieces as it
orders, whatever the other lines take.

## Main definitions

* `MemoryStore.Covers`, `MemoryStore.HasLeft` - whether the stock covers a line
* `MemoryStore.IsFit` - whether an order is fit

## Main results

* `isFit_of_review` - what a review finds fit is fit
* `review_of_isFit` - where the store carries out every call, a review finds fit what is fit
* `MemoryStore.covers_iff` - a line is covered by as many pieces as it orders
* `MemoryStore.isFit_again` - when an order that was fit is so again
* `MemoryStore.IsFit.quantity_pos` - a fit order orders something in each line
* `course_of_ready`, `course_disturbed` - an order is attempted if it is open and fit
-/

namespace Fulfilment

open Program Validation

variable {s t u v : MemoryStore} {now : Timestamp} {id : String} {settings : OrderSettings}
  {o : Order} {ms : List (DeskMoment MemoryStore)} {factor : Binary64} {l : Line} {ls : List Line}

namespace MemoryStore

/-- Whether nothing is found when a line is held against the stock. -/
def Covers (factor : Binary64) (s : MemoryStore) (l : Line) : Prop :=
  ∃ p r, s.product l.productId = .ok (some p) ∧ stockFinding factor l p = .ok r ∧ r.errors = []

/-- Whether there are as many pieces in stock as a line orders. -/
def HasLeft (s : MemoryStore) (l : Line) : Prop :=
  ∃ p m n, s.product l.productId = .ok (some p) ∧ p.stock = .count m ∧ l.quantity = .count n ∧ n ≤ m

/-- Whether an order is in order by itself and its lines are covered. -/
structure IsFit (settings : OrderSettings) (s : MemoryStore) (o : Order) : Prop where
  /-- Nothing is found in the order by itself. -/
  examined : ∃ r, examine settings o = .ok r ∧ r.errors = []
  /-- The stock covers the lines. -/
  covered : ∀ l ∈ o.lines, s.Covers settings.lowStockFactor l

end MemoryStore

/-! ### Reviews -/

theorem atDesk_map {α β : Type} (f : α → β) (p : StoreProgram α) :
    StoreProgram.atDesk (p.map f) = (StoreProgram.atDesk p).map f :=
  StoreProgram.atDesk_bind p _

/-- A line is held against the stock, and if nothing goes wrong the other lines follow. -/
theorem runs_checkStock_cons {a : Except Failure Review}
    (h : Runs (Disturbed now) (checkStock factor (l :: ls)).atDesk s ms a v) :
    (∃ f, a = .error f) ∨ ∃ found r ms' b, s.product l.productId = .ok found ∧
      lineFinding factor l (.ofOption found) = .ok r ∧
      Runs (Disturbed now) (checkStock factor ls).atDesk s ms' b v ∧ a = b.map (combine r) := by
  obtain ⟨reply, u, ns, answered, rest, rfl⟩ := runs_call_iff.mp h
  obtain ⟨rfl, ⟨f, rfl⟩ | rfl⟩ := answered.product
  · obtain ⟨rfl, rfl, rfl⟩ := runs_done_iff.mp rest
    exact .inl ⟨f, rfl⟩
  cases inStock : u.product l.productId with
  | error f =>
    rw [inStock] at rest
    obtain ⟨rfl, rfl, rfl⟩ := runs_done_iff.mp rest
    exact .inl ⟨f, rfl⟩
  | ok found =>
    rw [inStock] at rest
    dsimp only [Except.map] at rest
    cases finding : lineFinding factor l (.ofOption found) with
    | error f =>
      rw [finding] at rest
      obtain ⟨rfl, rfl, rfl⟩ := runs_done_iff.mp rest
      exact .inl ⟨f, rfl⟩
    | ok r =>
      rw [finding] at rest
      dsimp only at rest
      rw [atDesk_map] at rest
      obtain ⟨b, others, rfl⟩ := runs_map_iff.mp rest
      exact .inr ⟨found, r, ns, b, rfl, finding, others, rfl⟩

/-- What nothing is found against is in stock. -/
theorem lineFinding_clean {found : Option Product} {r : Review}
    (finding : lineFinding factor l (.ofOption found) = .ok r) (clean : r.errors = []) :
    ∃ p, found = some p ∧ stockFinding factor l p = .ok r := by
  cases found with
  | none =>
    cases finding
    cases clean
  | some p => exact ⟨p, rfl, finding⟩

theorem covers_of_checkStock {r : Review}
    (h : Runs (Disturbed now) (checkStock factor ls).atDesk s ms (.ok r) v)
    (clean : r.errors = []) :
    ∀ l ∈ ls, s.Covers factor l := by
  induction ls generalizing ms r with
  | nil => simp
  | cons l ls ih =>
    obtain ⟨f, failed⟩ | ⟨found, r₁, ns, b, inStock, finding, others, whole⟩ :=
      runs_checkStock_cons h
    · cases failed
    cases b with
    | error f => cases whole
    | ok r₂ =>
      cases whole
      obtain ⟨clean₁, clean₂⟩ := List.append_eq_nil_iff.mp clean
      obtain ⟨p, rfl, finding⟩ := lineFinding_clean finding clean₁
      intro l' mem
      rcases List.mem_cons.mp mem with rfl | mem
      · exact ⟨p, r₁, inStock, finding, clean₁⟩
      · exact ih others clean₂ l' mem

/-- What a review finds fit is fit, whatever fails on the way. -/
theorem isFit_of_review {r : Review}
    (h : Runs (Disturbed now) (review settings (.text id)).atDesk s ms r v)
    (valid : r.isValid = true) : ∃ o, s.order? id = some o ∧ s.IsFit settings o := by
  obtain ⟨reply, u, ns, answered, rest, rfl⟩ := runs_call_iff.mp h
  obtain ⟨rfl, ⟨f, rfl⟩ | rfl⟩ := answered.looked
  · obtain ⟨rfl, rfl, rfl⟩ := runs_done_iff.mp rest
    cases valid
  cases found : u.order? id with
  | none =>
    rw [found] at rest
    obtain ⟨rfl, rfl, rfl⟩ := runs_done_iff.mp rest
    cases valid
  | some o =>
    rw [found] at rest
    dsimp only [Found.ofOption] at rest
    cases examined : examine settings o with
    | error f =>
      rw [examined] at rest
      obtain ⟨rfl, rfl, rfl⟩ := runs_done_iff.mp rest
      cases valid
    | ok r₁ =>
      rw [examined] at rest
      dsimp only at rest
      rw [atDesk_map] at rest
      obtain ⟨b, stock, rfl⟩ := runs_map_iff.mp rest
      cases b with
      | error f => cases valid
      | ok r₂ =>
        have clean : r₁.errors ++ r₂.errors = [] := (Review.isValid_iff _).mp valid
        obtain ⟨clean₁, clean₂⟩ := List.append_eq_nil_iff.mp clean
        exact ⟨o, rfl, ⟨r₁, examined, clean₁⟩, covers_of_checkStock stock clean₂⟩

theorem checkStock_of_covers {a : Except Failure Review}
    (h : Runs (Undisturbed now) (checkStock factor ls).atDesk s ms a v)
    (covered : ∀ l ∈ ls, s.Covers factor l) : ∃ r, a = .ok r ∧ r.errors = [] := by
  induction ls generalizing ms a with
  | nil =>
    obtain ⟨rfl, rfl, rfl⟩ := runs_done_iff.mp h
    exact ⟨_, rfl, rfl⟩
  | cons l ls ih =>
    obtain ⟨p, r₁, inStock, finding, clean₁⟩ := covered l List.mem_cons_self
    obtain ⟨reply, u, ns, answered, rest, rfl⟩ := runs_call_iff.mp h
    have replied : ((s.product l.productId).map Found.ofOption, s) = (reply, u) := answered
    rw [inStock] at replied
    cases replied
    have same : lineFinding factor l (.entry p) = .ok r₁ := finding
    dsimp only [Except.map, Found.ofOption] at rest
    rw [same] at rest
    dsimp only at rest
    rw [atDesk_map] at rest
    obtain ⟨b, others, rfl⟩ := runs_map_iff.mp rest
    obtain ⟨r₂, rfl, clean₂⟩ := ih others fun l' mem => covered l' (List.mem_cons_of_mem l mem)
    exact ⟨_, rfl, by simp [combine, clean₁, clean₂]⟩

/-- Where the store carries out every call, a review finds fit what is fit. -/
theorem review_of_isFit {r : Review}
    (h : Runs (Undisturbed now) (review settings (.text id)).atDesk s ms r v)
    (found : s.order? id = some o) (fit : s.IsFit settings o) : r.isValid = true := by
  obtain ⟨reply, u, ns, answered, rest, rfl⟩ := runs_call_iff.mp h
  have replied : (Except.ok (Found.ofOption (s.order? id)), s) = (reply, u) := answered
  rw [found] at replied
  cases replied
  obtain ⟨r₁, examined, clean₁⟩ := fit.examined
  dsimp only [Found.ofOption] at rest
  rw [examined] at rest
  dsimp only at rest
  rw [atDesk_map] at rest
  obtain ⟨b, stock, rfl⟩ := runs_map_iff.mp rest
  obtain ⟨r₂, rfl, clean₂⟩ := checkStock_of_covers stock fit.covered
  exact (Review.isValid_iff _).mpr (by simp [combine, clean₁, clean₂])

/-! ### What a fit order is -/

theorem precedes_real (m : Int) (x : Binary64) :
    (Quantity.count m).document.precedes (.real x) = .ok (Binary64.intLt m x) :=
  Value.precedes_number (m := .inl m) (n := .inr x) rfl rfl

/-- Whole numbers of pieces cover a line if there are as many as it orders. -/
theorem stockFinding_clean_iff {p : Product} {m n : Int} (stock : p.stock = .count m)
    (quantity : l.quantity = .count n) :
    (∃ r, stockFinding factor l p = .ok r ∧ r.errors = []) ↔
      n ≤ m ∧ ∃ reserve, l.quantity.times factor = .ok reserve := by
  have isBelow : p.stock.isBelow l.quantity = .ok (decide (m < n)) := by
    rw [stock, quantity, Quantity.isBelow_count]
  constructor
  · rintro ⟨r, finding, clean⟩
    obtain ⟨below, same, rest⟩ := Failure.bind_eq_ok_iff.mp finding
    rw [isBelow] at same
    cases same
    by_cases below : m < n
    · simp only [below, decide_true, if_true] at rest
      cases rest
      cases clean
    · simp only [below, decide_false, Bool.false_eq_true, if_false] at rest
      obtain ⟨reserve, times, -⟩ := Failure.bind_eq_ok_iff.mp rest
      exact ⟨by omega, reserve, times⟩
  · rintro ⟨enough, reserve, times⟩
    have notBelow : ¬ m < n := by omega
    refine ⟨⟨[], if Binary64.intLt m reserve then ["Stock is low for " ++ p.name.plain] else []⟩,
      ?_, rfl⟩
    refine Failure.bind_eq_ok_iff.mpr ⟨false, by simp [isBelow, notBelow], ?_⟩
    refine Failure.bind_eq_ok_iff.mpr ⟨reserve, times, ?_⟩
    refine Failure.bind_eq_ok_iff.mpr ⟨_, by rw [stock, precedes_real], rfl⟩

/-- If nothing is found in the lines, nothing is found in any of them. -/
theorem lineError_of_lineErrors (h : lineErrors ls = .ok []) : ∀ l ∈ ls, lineError l = .ok [] := by
  intro l mem
  cases ls with
  | nil => cases mem
  | cons l' ls =>
    obtain ⟨rs, each, clean⟩ := Failure.bind_eq_ok_iff.mp h
    obtain ⟨r, mem', found⟩ := Failure.mapM_eq_ok each l mem
    rw [found, List.flatten_eq_nil_iff.mp (Except.ok.inj clean) r mem']

/-- If nothing is found in a line, it orders something. -/
theorem quantity_pos_of_lineError {n : Int} (h : lineError l = .ok [])
    (quantity : l.quantity = .count n) : 0 < n := by
  obtain ⟨noPiece, same, rest⟩ := Failure.bind_eq_ok_iff.mp h
  rw [quantity, Quantity.nonPositive_count] at same
  cases same
  obtain ⟨noPrice, -, clean⟩ := Failure.bind_eq_ok_iff.mp rest
  obtain ⟨clean, -⟩ := List.append_eq_nil_iff.mp (Except.ok.inj clean)
  by_cases positive : 0 < n
  · exact positive
  · simp [Int.not_lt.mp positive] at clean

/-- What is found in an order by itself is a matter of its content. -/
theorem examine_congr {o' : Order} (content : o.SameContent o') :
    examine settings o' = examine settings o := by
  unfold examine customerErrors totalError totalWarning Order.calculatedTotal
  rw [content.customerName, content.customerEmail, content.lines, content.total]

namespace MemoryStore

/-- A line is covered if as many pieces are left as it orders, and the number is within bounds. -/
theorem covers_iff {n : Int} (counted : Counted s.products) (quantity : l.quantity = .count n) :
    s.Covers factor l ↔ s.HasLeft l ∧ ∃ reserve, l.quantity.times factor = .ok reserve := by
  constructor
  · rintro ⟨p, r, inStock, finding, clean⟩
    obtain ⟨key, -, there⟩ := product_eq_ok.mp inStock
    obtain ⟨m, stock⟩ := counted key p there
    obtain ⟨enough, times⟩ := (stockFinding_clean_iff stock quantity).mp ⟨r, finding, clean⟩
    exact ⟨⟨p, m, n, inStock, stock, quantity, enough⟩, times⟩
  · rintro ⟨⟨p, m, n', inStock, stock, quantity', enough⟩, times⟩
    obtain ⟨r, finding, clean⟩ := (stockFinding_clean_iff stock quantity').mpr ⟨enough, times⟩
    exact ⟨p, r, inStock, finding, clean⟩

theorem hasLeft_congr (same : s.products = t.products) : s.HasLeft l ↔ t.HasLeft l := by
  unfold HasLeft product
  rw [same]

/-- An order that was fit is so again, as long as there is enough left for each line. -/
theorem isFit_again {o' : Order} (fit : s.IsFit settings o) (counted : Counted s.products)
    (counted' : Counted t.products) (quantities : ∀ l ∈ o.lines, ∃ n, l.quantity = .count n)
    (content : o.SameContent o') : t.IsFit settings o' ↔ ∀ l ∈ o.lines, t.HasLeft l := by
  constructor
  · intro again l mem
    obtain ⟨n, quantity⟩ := quantities l mem
    exact ((covers_iff counted' quantity).mp (again.covered l (content.lines ▸ mem))).1
  · intro left
    refine ⟨?_, fun l mem => ?_⟩
    · rw [examine_congr content]
      exact fit.examined
    · rw [content.lines] at mem
      obtain ⟨n, quantity⟩ := quantities l mem
      have times := ((covers_iff counted quantity).mp (fit.covered l mem)).2
      exact (covers_iff counted' quantity).mpr ⟨left l mem, times⟩

/-- The products of a fit order are in stock, and are so as long as no product goes. -/
theorem IsFit.inStock (fit : s.IsFit settings o) (same : t.products = s.products)
    (mem : l ∈ o.lines) : ∃ p, t.product l.productId = .ok (some p) := by
  obtain ⟨p, -, inStock, -⟩ := fit.covered l mem
  refine ⟨p, ?_⟩
  rw [product, same]
  exact inStock

/-- A fit order orders something in each line. -/
theorem IsFit.quantity_pos {n : Int} (fit : s.IsFit settings o) (mem : l ∈ o.lines)
    (quantity : l.quantity = .count n) : 0 < n := by
  obtain ⟨r, examined, clean⟩ := fit.examined
  obtain ⟨customer, -, rest⟩ := Failure.bind_eq_ok_iff.mp examined
  obtain ⟨lines, found, rest⟩ := Failure.bind_eq_ok_iff.mp rest
  obtain ⟨total, -, rest⟩ := Failure.bind_eq_ok_iff.mp rest
  obtain ⟨warnings, -, whole⟩ := Failure.bind_eq_ok_iff.mp rest
  cases whole
  obtain ⟨clean, -⟩ := List.append_eq_nil_iff.mp clean
  obtain ⟨-, rfl⟩ := List.append_eq_nil_iff.mp clean
  exact quantity_pos_of_lineError (lineError_of_lineErrors found l mem) quantity

theorem IsFit.quantities_pos (fit : s.IsFit settings o)
    (quantities : ∀ l ∈ o.lines, ∃ n, l.quantity = .count n) :
    ∀ l ∈ o.lines, ∃ n, l.quantity = .count n ∧ 0 < n := by
  intro l mem
  obtain ⟨n, quantity⟩ := quantities l mem
  exact ⟨n, quantity, fit.quantity_pos mem quantity⟩

end MemoryStore

/-! ### The course of an order that is in the store -/

/-- Where the store is read without fail, an order that is open is attempted if it is fit, and
reported as not valid otherwise. -/
theorem course_of_ready {env : DeskEnvironment MemoryStore} {a : Except Failure Report}
    (reads : ∀ s e u, e.1.IsRead → env s e u → Undisturbed now s e u) (found : s.order? id = some o)
    (isOpen : o.status.IsOpen)
    (h : Runs env (Processing.process now settings (.text id)) s ms a v) :
    ∃ report, a = .ok report ∧
      ((¬ s.IsFit settings o ∧ report.success = false ∧ report.message = "Order is not valid" ∧
          v = s) ∨
        (s.IsFit settings o ∧ report.message = Processing.attemptMessage report.success ∧
          ∃ ms₁ ns, (∀ e ∈ events ms₁, e.1.IsRead) ∧ (∀ t ∈ states ms₁, t = s) ∧ ms = ms₁ ++ ns ∧
            Processing.Attempt env now o (.text id) s ns report.success v)) := by
  have loads {r t} (loaded : env s (looked (.text id) r) t) : r = .ok (.entry o) ∧ t = s := by
    have replied : (Except.ok (Found.ofOption (s.order? id)), s) = (r, t) :=
      reads s (looked (.text id) r) t trivial loaded
    rw [found] at replied
    exact ⟨(Prod.mk.inj replied).1.symm, (Prod.mk.inj replied).2.symm⟩
  have still : ∀ s e u, DeskCall.IsRead e.1 → env s e u → u = s :=
    fun s e u read answered => (reads s e u read answered).disturbed.read read
  cases Processing.course_of_runs h with
  | unread loaded => cases (loads loaded).1
  | missing loaded => cases (loads loaded).1
  | unreadable loaded => cases (loads loaded).1
  | closed loaded closed =>
    cases (loads loaded).1
    exact absurd isOpen closed
  | unfit loaded _ reviewed unfit success message =>
    obtain ⟨entry, rfl⟩ := loads loaded
    cases entry
    have carried := reviewed.mono_of_asks (Processing.asks_review settings _) reads
    refine ⟨_, rfl, .inl ⟨fun fit => ?_, success, message, ?_⟩⟩
    · rw [review_of_isFit carried found fit] at unfit
      cases unfit
    · exact (reviewed.unchanged (Processing.asks_review settings _) still).1
  | attempted loaded _ reviewed fit attempt message =>
    obtain ⟨entry, rfl⟩ := loads loaded
    cases entry
    have carried := reviewed.mono_of_asks (Processing.asks_review settings _) reads
    have asked := reviewed.asked (Processing.asks_review settings _)
    obtain ⟨rfl, unchanged⟩ := reviewed.unchanged (Processing.asks_review settings _) still
    -- The review loads the order once more, and finds the same one.
    obtain ⟨o', found', fit⟩ := isFit_of_review (carried.mono fun _ _ _ => .inl) fit
    rw [found] at found'
    cases found'
    exact ⟨_, rfl, .inr ⟨fit, message, _ :: _, _, by simpa [DeskCall.IsRead] using asked,
      by simpa using unchanged, rfl, attempt⟩⟩

/-- Whatever fails on the way, processing an order either only reads, or attempts an order that is
open and fit. -/
theorem course_disturbed {env : DeskEnvironment MemoryStore} {a : Except Failure Report}
    (le : ∀ s e u, env s e u → Disturbed now s e u)
    (h : Runs env (Processing.process now settings (.text id)) s ms a v) :
    ((∀ e ∈ events ms, e.1.IsRead) ∧ (∀ t ∈ states ms, t = s) ∧ v = s) ∨
      ∃ o success ms₁ ns, s.order? id = some o ∧ o.status.IsOpen ∧ s.IsFit settings o ∧
        ms = ms₁ ++ ns ∧ (∀ e ∈ events ms₁, e.1.IsRead) ∧ (∀ t ∈ states ms₁, t = s) ∧
        Processing.Attempt env now o (.text id) s ns success v := by
  have loads {r t} (loaded : env s (looked (.text id) r) t) :
      t = s ∧ ∀ o, r = .ok (.entry o) → s.order? id = some o := by
    obtain ⟨rfl, ⟨f, rfl⟩ | rfl⟩ := (le _ _ _ loaded).looked
    · exact ⟨rfl, fun o same => by cases same⟩
    · refine ⟨rfl, fun o same => ?_⟩
      cases found : t.order? id with
      | none => rw [found] at same; cases same
      | some o' => rw [found] at same; cases same; rfl
  -- Up to the end of the review nothing is written, so the store is as it was.
  have reads : ∀ s e u, DeskCall.IsRead e.1 → env s e u → u = s :=
    fun s e u read answered => (le s e u answered).read read
  cases Processing.course_of_runs h with
  | unread loaded | missing loaded | unreadable loaded | closed loaded =>
    obtain ⟨rfl, -⟩ := loads loaded
    exact .inl ⟨by simp [DeskCall.IsRead], by simp, rfl⟩
  | unfit loaded _ reviewed =>
    obtain ⟨rfl, -⟩ := loads loaded
    obtain ⟨rfl, still⟩ := reviewed.unchanged (Processing.asks_review settings _) reads
    have asked := reviewed.asked (Processing.asks_review settings _)
    exact .inl ⟨by simpa [DeskCall.IsRead] using asked, by simpa using still, rfl⟩
  | attempted loaded isOpen reviewed fit attempt =>
    obtain ⟨rfl, entry⟩ := loads loaded
    have found := entry _ rfl
    obtain ⟨rfl, still⟩ := reviewed.unchanged (Processing.asks_review settings _) reads
    have asked := reviewed.asked (Processing.asks_review settings _)
    obtain ⟨o, found', fit⟩ := isFit_of_review (reviewed.mono le) fit
    rw [found] at found'
    cases found'
    exact .inr ⟨_, _, _ :: _, _, found, isOpen, fit, rfl,
      by simpa [DeskCall.IsRead] using asked, by simpa using still, attempt⟩

end Fulfilment
