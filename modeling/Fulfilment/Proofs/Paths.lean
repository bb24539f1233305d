import Fulfilment.Workflow.Transform

/-!
# Where paths lead

A path is written as a text, with points between the names of the members to follow. This file says
where it leads without reference to how it is resolved: by the names that the text writes, and by
the objects that lie on the way. A text writes exactly one row of names, because no name has a point
in it, and a row of names leads to one value at most. Two rows after one another lead where the
second leads from the end of the first.

Where names lead nowhere, a path has null. It has null too where the last name is that of a member
which is null, and nothing tells the two apart.

## Main definitions

* `Path.Writes`, `Path.Leads` - the names that a path writes, and where names lead

## Main results

* `Path.writes_iff` - splitting a text gives the names that it writes
* `Path.resolve_eq_iff` - a path has the value to which its names lead
* `Path.leads_append_iff` - where two rows of names lead
* `Path.resolve_intercalate` - what a path has, and what two paths have after one another
-/

namespace Fulfilment

/-! ### The names of a path -/

namespace Text

variable {sep : Char}

theorem joinPieces_eq_intercalate (pieces : List (List Char)) :
    joinPieces sep pieces = [sep].intercalate pieces := by
  induction pieces with
  | nil => rfl
  | cons p ps ih =>
    cases ps with
    | nil => simp [joinPieces]
    | cons q ps => rw [joinPieces, ih, List.intercalate_cons_cons, List.append_cons]

theorem sep_notMem_of_mem_pieces {cs p : List Char} (mem : p ∈ pieces sep cs) : sep ∉ p := by
  induction cs generalizing p with
  | nil =>
    obtain rfl := List.mem_singleton.mp mem
    exact List.not_mem_nil
  | cons c cs ih =>
    rw [pieces] at mem
    split at mem
    case isTrue =>
      rcases List.mem_cons.mp mem with rfl | mem
      · exact List.not_mem_nil
      · exact ih mem
    case isFalse ne =>
      cases rest : pieces sep cs with
      | nil => exact absurd rest (pieces_ne_nil sep cs)
      | cons q qs =>
        rw [rest] at mem ih
        rcases List.mem_cons.mp mem with rfl | mem
        · rw [List.mem_cons, not_or]
          exact ⟨Ne.symm ne, ih List.mem_cons_self⟩
        · exact ih (List.mem_cons_of_mem q mem)

theorem pieces_of_notMem {p : List Char} (free : sep ∉ p) : pieces sep p = [p] := by
  induction p with
  | nil => rfl
  | cons c cs ih =>
    rw [List.mem_cons, not_or] at free
    rw [pieces, if_neg (Ne.symm free.1), ih free.2]

theorem pieces_append {p : List Char} (free : sep ∉ p) (cs : List Char) :
    pieces sep (p ++ sep :: cs) = p :: pieces sep cs := by
  induction p with
  | nil => rw [List.nil_append, pieces, if_pos rfl]
  | cons c p ih =>
    rw [List.mem_cons, not_or] at free
    rw [List.cons_append, pieces, if_neg (Ne.symm free.1), ih free.2]

/-- Splitting undoes joining. -/
theorem pieces_joinPieces {ps : List (List Char)} (ne_nil : ps ≠ []) (free : ∀ p ∈ ps, sep ∉ p) :
    pieces sep (joinPieces sep ps) = ps := by
  induction ps with
  | nil => exact absurd rfl ne_nil
  | cons p ps ih =>
    rw [List.forall_mem_cons] at free
    cases ps with
    | nil => exact pieces_of_notMem free.1
    | cons q ps =>
      rw [joinPieces, pieces_append free.1, ih (List.cons_ne_nil q ps) free.2]

end Text

namespace Path

/-- Whether a text writes the names of a path, which are separated by points. -/
structure Writes (path : String) (names : List String) : Prop where
  /-- There is a name, which may be empty. -/
  ne_nil : names ≠ []
  /-- No name has a point in it. -/
  free : ∀ name ∈ names, '.' ∉ name.toList
  /-- Between any two names there is a point. -/
  eq : path = ".".intercalate names

/-- Where names lead from a value, through one object after the other. -/
inductive Leads : Value → List String → Value → Prop
  /-- Without names there is nowhere to go. -/
  | here (v : Value) : Leads v [] v
  /-- A name leads to the member of an object, and the other names on from there. -/
  | step {fs : Value.Fields} {name : String} {names : List String} {v w : Value}
      (found : fs.get? name = some v) (rest : Leads v names w) :
      Leads (.object fs) (name :: names) w

variable {path : String} {names : List String} {u v w : Value}

theorem writes_iff : Writes path names ↔ Text.split '.' path = names := by
  have joined (names : List String) : (".".intercalate names).toList =
      Text.joinPieces '.' (names.map String.toList) := by
    rw [String.toList_intercalate, Text.joinPieces_eq_intercalate]
    rfl
  constructor
  · rintro ⟨ne_nil, free, rfl⟩
    have pieces := Text.pieces_joinPieces (mt List.map_eq_nil_iff.mp ne_nil)
      (List.forall_mem_map.mpr free)
    rw [Text.split, joined, pieces, List.map_map]
    exact List.map_id'' (fun _ => String.ofList_toList) names
  · rintro rfl
    refine ⟨mt List.map_eq_nil_iff.mp (Text.pieces_ne_nil _ _), ?_, ?_⟩
    · rw [Text.split, List.forall_mem_map]
      intro p mem
      rw [String.toList_ofList]
      exact Text.sep_notMem_of_mem_pieces mem
    · rw [← String.toList_inj, joined, Text.split, List.map_map]
      exact (Text.join_pieces '.' path.toList).symm.trans
        (congrArg _ (List.map_id'' (fun _ => String.toList_ofList) _).symm)

/-- A text without a point is a single name. -/
theorem writes_singleton {name : String} (free : '.' ∉ name.toList) : Writes name [name] :=
  ⟨List.cons_ne_nil name [], List.forall_mem_singleton.mpr free, by simp⟩

theorem leads_iff : Leads v names w ↔ walk? v names = some w := by
  induction names generalizing v with
  | nil =>
    rw [walk?, Option.some.injEq]
    constructor
    · rintro ⟨⟩
      rfl
    · rintro rfl
      exact .here v
  | cons name names ih =>
    rw [walk?, Option.bind_eq_some_iff]
    constructor
    · rintro (_ | ⟨found, rest⟩)
      exact ⟨_, found, ih.mp rest⟩
    · rintro ⟨u, found, rest⟩
      obtain ⟨fs, object, found⟩ := Option.bind_eq_some_iff.mp found
      cases v <;> cases object
      exact .step found (ih.mpr rest)

/-- A path has the value to which its names lead, or null if they lead nowhere. -/
theorem resolve_eq_iff (context : Context) (writes : Writes path names) :
    resolve context path = w ↔
      Leads (.object context) names w ∨ (∀ u, ¬ Leads (.object context) names u) ∧ w = .null := by
  simp only [resolve, writes_iff.mp writes, leads_iff]
  cases walk? (.object context) names <;> simp [eq_comm]

/-! ### Two paths after one another -/

/-- Names lead to one value at most. -/
theorem Leads.unique (h : Leads v names u) (h' : Leads v names w) : w = u :=
  Option.some.inj ((leads_iff.mp h').symm.trans (leads_iff.mp h))

/-- Two rows of names lead where the second leads from the end of the first. -/
theorem leads_append_iff {others : List String} :
    Leads v (names ++ others) w ↔ ∃ u, Leads v names u ∧ Leads u others w := by
  simp only [leads_iff, walk?_append, Option.bind_eq_some_iff]

/-- Only an object leads further. -/
theorem Leads.object (h : Leads v names w) (ne_nil : names ≠ []) : ∃ fs, v = .object fs := by
  cases h with
  | here => exact absurd rfl ne_nil
  | step => exact ⟨_, rfl⟩

theorem Writes.resolve_of_leads {context : Context} (writes : Writes path names)
    (leads : Leads (.object context) names w) : resolve context path = w :=
  (resolve_eq_iff context writes).mpr (.inl leads)

theorem Writes.resolve_of_lost {context : Context} (writes : Writes path names)
    (lost : ∀ u, ¬ Leads (.object context) names u) : resolve context path = .null :=
  (resolve_eq_iff context writes).mpr (.inr ⟨lost, rfl⟩)

/-- A path that has an object leads to it. -/
theorem Writes.leads_of_object {context : Context} {fs : Value.Fields} (writes : Writes path names)
    (h : resolve context path = .object fs) : Leads (.object context) names (.object fs) := by
  rcases (resolve_eq_iff context writes).mp h with leads | ⟨-, null⟩
  · exact leads
  · cases null

section Append

variable {context : Context} {path' whole : String} {names' : List String}
  (writes : Writes path names) (writes' : Writes path' names')
  (writesBoth : Writes whole (names ++ names'))

include writes writes' writesBoth

/-- A path goes on in the object that its beginning has. -/
theorem resolve_append_of_object {fs : Value.Fields} (object : resolve context path = .object fs) :
    resolve context whole = resolve fs path' := by
  have first := writes.leads_of_object object
  -- Whatever the second path has, the whole path has.
  refine (resolve_eq_iff context writesBoth).mpr ?_
  rcases (resolve_eq_iff fs writes').mp rfl with second | ⟨lost, null⟩
  · exact .inl (leads_append_iff.mpr ⟨_, first, second⟩)
  · refine .inr ⟨fun u leads => ?_, null⟩
    obtain ⟨v, first', second⟩ := leads_append_iff.mp leads
    obtain rfl := first.unique first'
    exact lost u second

/-- A path has null if its beginning has no object. -/
theorem resolve_append_of_other (other : ∀ fs, resolve context path ≠ .object fs) :
    resolve context whole = .null := by
  refine writesBoth.resolve_of_lost fun u leads => ?_
  obtain ⟨v, first, second⟩ := leads_append_iff.mp leads
  obtain ⟨fs, rfl⟩ := second.object writes'.ne_nil
  exact other fs (writes.resolve_of_leads first)

end Append

theorem writes_intercalate (ne_nil : names ≠ []) (free : ∀ name ∈ names, '.' ∉ name.toList) :
    Writes (".".intercalate names) names := ⟨ne_nil, free, rfl⟩

/-- **What a path has.** Names without points, written with points between them, have the value to
which they lead through one object after the other, and null if they lead nowhere. With further
names after them they have what the further names have in the object that is their value, and null
if their value is no object. -/
theorem resolve_intercalate (context : Context) (ne_nil : names ≠ [])
    (free : ∀ name ∈ names, '.' ∉ name.toList) :
    (∀ v, Leads (.object context) names v → resolve context (".".intercalate names) = v) ∧
    ((∀ v, ¬ Leads (.object context) names v) →
      resolve context (".".intercalate names) = .null) ∧
    ∀ others : List String, others ≠ [] → (∀ name ∈ others, '.' ∉ name.toList) →
      (∀ fs, resolve context (".".intercalate names) = .object fs →
        resolve context (".".intercalate (names ++ others)) =
          resolve fs (".".intercalate others)) ∧
      ((∀ fs, resolve context (".".intercalate names) ≠ .object fs) →
        resolve context (".".intercalate (names ++ others)) = .null) := by
  have writes := writes_intercalate ne_nil free
  refine ⟨fun v => writes.resolve_of_leads, writes.resolve_of_lost, ?_⟩
  intro others ne_nil' free'
  have writes' := writes_intercalate ne_nil' free'
  have whole : Writes (".".intercalate (names ++ others)) (names ++ others) :=
    writes_intercalate (List.append_ne_nil_of_left_ne_nil ne_nil others)
      (List.forall_mem_append.mpr ⟨free, free'⟩)
  exact ⟨fun fs => resolve_append_of_object writes writes' whole,
    resolve_append_of_other writes writes' whole⟩

/-- A name may be empty, and so may be the last one of a path. A path that goes on from what is no
object has null. -/
theorem resolve_intercalate_sample :
    let inner : Value.Fields := [("", .int 1)]
    let context : Context := [("order", .object [("", .object inner)])]
    (∀ name ∈ ["order", ""], '.' ∉ name.toList) ∧
    Leads (.object context) ["order", ""] (.object inner) ∧
    resolve context (".".intercalate ["order", ""]) = .object inner ∧
    resolve context (".".intercalate ["order", "", ""]) = resolve inner (".".intercalate [""]) ∧
    resolve context (".".intercalate ["order", "", ""]) = .int 1 ∧
    resolve context (".".intercalate ["order", "", "", "more"]) = .null := by
  intro inner context
  have free : ∀ name ∈ ["order", ""], '.' ∉ name.toList := by decide
  have leads : Leads (.object context) ["order", ""] (.object inner) :=
    .step rfl (.step rfl (.here _))
  have leads' : Leads (.object context) ["order", "", ""] (.int 1) :=
    leads_append_iff.mpr ⟨_, leads, .step rfl (.here _)⟩
  obtain ⟨found, -, further⟩ := resolve_intercalate context (List.cons_ne_nil "order" [""]) free
  obtain ⟨inside, -⟩ := further [""] (List.cons_ne_nil "" []) (by decide)
  obtain ⟨found', -, further'⟩ :=
    resolve_intercalate context (List.cons_ne_nil "order" ["", ""]) (by decide)
  obtain ⟨-, lost⟩ := further' ["more"] (List.cons_ne_nil "more" []) (by decide)
  refine ⟨free, leads, found _ leads, inside inner (found _ leads), found' _ leads', lost ?_⟩
  intro fs
  rw [found' _ leads']
  exact nofun

end Path

end Fulfilment
