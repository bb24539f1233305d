/-!
# Catalogs

A catalog holds entries under names and remembers the order in which the names were first entered.
Replacing an entry keeps its place and the form of its name; a name that was removed and entered
again comes last. Where the same name stands twice, the first entry counts.

The names may be of any kind on which `==` says which of them are the same name.

## Main definitions

* `Catalog` - entries under names, in order
* `Catalog.get?`, `Catalog.put`, `Catalog.remove` - one entry
* `Catalog.overlay` - all entries of one catalog written over another

## Main results

* `Catalog.get?_put`, `Catalog.get?_remove`, `Catalog.get?_overlay` - what is found afterwards
* `Catalog.names_put` - a new name is entered at the end, an old one keeps its place
* `Catalog.modify_eq_put` - changing an entry that is there
-/

namespace Fulfilment

/-- Entries under names, in the order in which the names were first entered. -/
abbrev Catalog (κ α : Type) := List (κ × α)

namespace Catalog

variable {κ α : Type}

/-- The names, in order. -/
def names (c : Catalog κ α) : List κ := c.map (·.1)

/-- The entries, in order. -/
def entries (c : Catalog κ α) : List α := c.map (·.2)

variable [BEq κ]

/-- The entry under a name. -/
def get? : Catalog κ α → κ → Option α
  | [], _ => none
  | (k, v) :: rest, name => if k == name then some v else get? rest name

/-- Whether there is an entry under the name. -/
def has (c : Catalog κ α) (name : κ) : Bool := (c.get? name).isSome

/-- Enters `value` under `name`, in the place of the old entry or at the end. -/
def put : Catalog κ α → κ → α → Catalog κ α
  | [], name, value => [(name, value)]
  | (k, v) :: rest, name, value =>
    if k == name then (k, value) :: rest else (k, v) :: put rest name value

/-- Removes every entry under a name. -/
def remove (c : Catalog κ α) (name : κ) : Catalog κ α := c.filter fun e => !(e.1 == name)

/-- Changes the entry under a name, if there is one. -/
def modify : Catalog κ α → κ → (α → α) → Catalog κ α
  | [], _, _ => []
  | (k, v) :: rest, name, f =>
    if k == name then (k, f v) :: rest else (k, v) :: modify rest name f

/-- Enters everything that `top` holds, one after the other. -/
def overlay (c top : Catalog κ α) : Catalog κ α := top.foldl (fun c e => c.put e.1 e.2) c

/-- A catalog of the given entries, of which the last under each name counts. -/
def ofEntries (es : List (κ × α)) : Catalog κ α := overlay [] es

@[simp] theorem get?_nil (name : κ) : get? ([] : Catalog κ α) name = none := rfl

theorem get?_cons (k : κ) (v : α) (c : Catalog κ α) (name : κ) :
    get? ((k, v) :: c) name = if k == name then some v else get? c name := rfl

theorem get?_append (c d : Catalog κ α) (name : κ) :
    get? (c ++ d) name = (get? c name).or (get? d name) := by
  induction c with
  | nil => simp
  | cons e rest ih =>
    obtain ⟨k, v⟩ := e
    cases h : k == name <;> simp [get?, h, ih]

theorem get?_eq_some {c : Catalog κ α} {name : κ} {value : α} (h : c.get? name = some value) :
    ∃ k, (k == name) = true ∧ (k, value) ∈ c := by
  induction c with
  | nil => simp at h
  | cons e rest ih =>
    obtain ⟨k, v⟩ := e
    by_cases hk : (k == name) = true
    · exact ⟨k, hk, by simp_all [get?]⟩
    · obtain ⟨k', hk', mem⟩ := ih (by simpa [get?, hk] using h)
      exact ⟨k', hk', List.mem_cons_of_mem _ mem⟩

theorem get?_eq_some_of_mem [LawfulBEq κ] {c : Catalog κ α} {name : κ} {value : α}
    (h : c.get? name = some value) : (name, value) ∈ c := by
  obtain ⟨k, hk, mem⟩ := get?_eq_some h
  exact eq_of_beq hk ▸ mem

/-- Where no name stands twice, every entry is found under its name. -/
theorem get?_of_mem [LawfulBEq κ] {c : Catalog κ α} {name : κ} {value : α}
    (nodup : c.names.Nodup) (mem : (name, value) ∈ c) : c.get? name = some value := by
  induction c with
  | nil => cases mem
  | cons e rest ih =>
    obtain ⟨k, v⟩ := e
    obtain ⟨new, nodup⟩ := List.nodup_cons.mp nodup
    rcases List.mem_cons.mp mem with same | mem
    · cases same
      simp [get?]
    · have ne : k ≠ name := by
        rintro rfl
        exact new (List.mem_map.mpr ⟨_, mem, rfl⟩)
      simp [get?, ne, ih nodup mem]

theorem get?_isSome_iff {c : Catalog κ α} {name : κ} :
    (c.get? name).isSome ↔ ∃ k ∈ c.names, (k == name) = true := by
  induction c with
  | nil => simp [names]
  | cons e rest ih =>
    obtain ⟨k, v⟩ := e
    simp only [names, List.map_cons, List.mem_cons, exists_eq_or_imp] at ih ⊢
    cases h : k == name <;> simp [get?, h, ih]

theorem names_put (c : Catalog κ α) (name : κ) (value : α) :
    (c.put name value).names = if c.has name then c.names else c.names ++ [name] := by
  induction c with
  | nil => simp [put, names, has]
  | cons e rest ih =>
    obtain ⟨k, v⟩ := e
    simp only [names, has] at ih ⊢
    cases h : k == name
    · simp only [put, h, Bool.false_eq_true, if_false, List.map_cons, ih, get?_cons]
      split <;> simp [*]
    · simp [put, h, get?_cons]

theorem names_put_of_get? {c : Catalog κ α} {name : κ} {before : α}
    (found : c.get? name = some before) (value : α) : (c.put name value).names = c.names := by
  have has : c.has name = true := Option.isSome_iff_exists.mpr ⟨before, found⟩
  rw [names_put, if_pos has]

/-- Entering leaves no name twice. -/
theorem nodup_names_put [LawfulBEq κ] {c : Catalog κ α} (nodup : c.names.Nodup) (name : κ)
    (value : α) : (c.put name value).names.Nodup := by
  rw [names_put]
  split
  · exact nodup
  next new =>
    have notIn : name ∉ c.names := fun mem =>
      new (get?_isSome_iff.mpr ⟨name, mem, BEq.rfl⟩)
    refine List.nodup_append.mpr ⟨nodup, by simp, ?_⟩
    rintro k mem k' mem' rfl
    exact notIn (List.mem_singleton.mp mem' ▸ mem)

/-- A new name is entered at the end. -/
theorem put_of_get?_eq_none {c : Catalog κ α} {name : κ} (h : c.get? name = none) (value : α) :
    c.put name value = c ++ [(name, value)] := by
  induction c with
  | nil => rfl
  | cons e rest ih =>
    obtain ⟨k, v⟩ := e
    cases hk : k == name
    · simp [put, hk, ih (by simpa [get?, hk] using h)]
    · simp [get?, hk] at h

theorem modify_eq_put {c : Catalog κ α} {name : κ} {value : α} (f : α → α)
    (h : c.get? name = some value) : c.modify name f = c.put name (f value) := by
  induction c with
  | nil => simp at h
  | cons e rest ih =>
    obtain ⟨k, v⟩ := e
    cases hk : k == name
    · simp [modify, put, hk, ih (by simpa [get?, hk] using h)]
    · have same : v = value := by simpa [get?, hk] using h
      simp [modify, put, hk, same]

theorem modify_eq_self {c : Catalog κ α} {name : κ} (f : α → α) (h : c.get? name = none) :
    c.modify name f = c := by
  induction c with
  | nil => rfl
  | cons e rest ih =>
    obtain ⟨k, v⟩ := e
    cases hk : k == name
    · simp [modify, hk, ih (by simpa [get?, hk] using h)]
    · simp [get?, hk] at h

variable [EquivBEq κ]

/-- After an entry was entered there are the old entries and this one, perhaps in the form in which
its name was entered first. -/
theorem mem_put {c : Catalog κ α} {name : κ} {value : α} {e : κ × α} (mem : e ∈ c.put name value) :
    e ∈ c ∨ ((e.1 == name) = true ∧ e.2 = value) := by
  induction c with
  | nil =>
    obtain rfl := List.mem_singleton.mp mem
    exact .inr ⟨BEq.rfl, rfl⟩
  | cons e' rest ih =>
    obtain ⟨k, v⟩ := e'
    cases h : k == name
    · simp only [put, h, Bool.false_eq_true, if_false, List.mem_cons] at mem ⊢
      rcases mem with same | mem
      · exact .inl (.inl same)
      · exact (ih mem).imp_left .inr
    · simp only [put, h, if_true, List.mem_cons] at mem ⊢
      rcases mem with rfl | mem
      · exact .inr ⟨h, rfl⟩
      · exact .inl (.inr mem)

theorem get?_congr (c : Catalog κ α) {name other : κ} (h : (name == other) = true) :
    c.get? name = c.get? other := by
  induction c with
  | nil => rfl
  | cons e rest ih =>
    obtain ⟨k, v⟩ := e
    simp [get?, BEq.congr_right h, ih]

theorem get?_put (c : Catalog κ α) (name other : κ) (value : α) :
    (c.put name value).get? other = if name == other then some value else c.get? other := by
  induction c with
  | nil => simp [put, get?]
  | cons e rest ih =>
    obtain ⟨k, v⟩ := e
    cases h : k == name
    · cases h' : k == other
      · simp [put, get?, h, h', ih]
      · have ne : (name == other) = false := by
          rw [← BEq.congr_right h', BEq.comm, h]
        simp [put, get?, h, h', ne]
    · simp only [put, h, if_true, get?_cons, BEq.congr_left h]
      split <;> rfl

@[simp] theorem get?_put_self (c : Catalog κ α) (name : κ) (value : α) :
    (c.put name value).get? name = some value := by simp [get?_put]

theorem get?_modify (c : Catalog κ α) (name other : κ) (f : α → α) :
    (c.modify name f).get? other =
      if name == other then (c.get? other).map f else c.get? other := by
  cases h : c.get? name with
  | none =>
    rw [modify_eq_self f h]
    split
    next same => rw [← get?_congr c same, h]; rfl
    next => rfl
  | some value =>
    rw [modify_eq_put f h, get?_put]
    split
    next same => rw [← get?_congr c same, h]; rfl
    next => rfl

theorem get?_remove (c : Catalog κ α) (name other : κ) :
    (c.remove name).get? other = if name == other then none else c.get? other := by
  induction c with
  | nil => simp [remove]
  | cons e rest ih =>
    obtain ⟨k, v⟩ := e
    simp only [remove] at ih
    cases h : k == name
    · simp only [remove, List.filter_cons, h, Bool.not_false, if_true, get?_cons, ih]
      cases h' : k == other
      · rfl
      · have ne : (name == other) = false := by
          rw [← BEq.congr_right h', BEq.comm, h]
        simp [ne]
    · simp only [remove, List.filter_cons, h, Bool.not_true, Bool.false_eq_true, if_false, ih,
        get?_cons, BEq.congr_left h]
      split <;> rfl

/-- After an overlay the last entry of the upper catalog under a name is found, and without one the
entry of the lower catalog. -/
theorem get?_overlay (c top : Catalog κ α) (name : κ) :
    (c.overlay top).get? name = (get? top.reverse name).or (c.get? name) := by
  induction top generalizing c with
  | nil => simp [overlay]
  | cons e rest ih =>
    obtain ⟨k, v⟩ := e
    have step : overlay c ((k, v) :: rest) = overlay (c.put k v) rest := rfl
    rw [step, ih, List.reverse_cons, get?_append, get?_put, Option.or_assoc]
    cases h : k == name <;> simp [get?, h]

end Catalog

end Fulfilment
