import Fulfilment.Proofs.Paths
import Fulfilment.Rehearsal.Engine

/-!
# Transforms as simultaneous assignments

A transform node writes several values on the context, one after the other, and what it writes may
have been read from places that it also writes to. This file shows that the order does not matter:
all sources are read from the context as it was before the node, every target gets what its source
has there, and nothing else changes. So a transform can exchange values without a third name to
keep one of them.

What a source has in a context is described here without reference to how a path is resolved: by the
names that the path writes, and by where they lead.

## Main definitions

* `Catalog.IsDistinct` - no two entries are under the same name
* `Transform.Yields` - what a source has in a context
* `Transform.Assigns` - what a simultaneous assignment makes of a context

## Main results

* `Catalog.get?_perm` - the order of distinct entries does not matter
* `Transform.yields_iff` - the description of sources is that of the program
* `Node.visit_assigns` - a transform node is a simultaneous assignment
-/

namespace Fulfilment

open Program

/-! ### Catalogs without repetition -/

namespace Catalog

variable {κ α : Type} [BEq κ]

/-- Whether no two entries of a catalog are under the same name. -/
def IsDistinct (c : Catalog κ α) : Prop := c.Pairwise fun a b => (a.1 == b.1) = false

variable [EquivBEq κ] {c d : Catalog κ α} {name : κ}

theorem IsDistinct.perm (distinct : c.IsDistinct) (perm : c.Perm d) : d.IsDistinct :=
  List.Perm.pairwise perm distinct fun ne => by rw [BEq.comm, ne]

/-- Where names are distinct, an entry is found under every form of its name. -/
theorem IsDistinct.get?_of_mem {e : κ × α} (distinct : c.IsDistinct) (mem : e ∈ c)
    (same : (e.1 == name) = true) : c.get? name = some e.2 := by
  induction c with
  | nil => cases mem
  | cons first rest ih =>
    obtain ⟨new, distinct⟩ := List.pairwise_cons.mp distinct
    rcases List.mem_cons.mp mem with rfl | mem
    · rw [get?_cons, same, if_pos rfl]
    · have other : (first.1 == name) = false := by
        rw [← BEq.congr_right same, new e mem]
      rw [get?_cons, other]
      exact ih distinct mem

/-- The order of distinct entries does not matter. -/
theorem get?_perm (distinct : c.IsDistinct) (perm : c.Perm d) : c.get? name = d.get? name := by
  cases found : d.get? name with
  | some value =>
    obtain ⟨k, same, mem⟩ := get?_eq_some found
    exact distinct.get?_of_mem (perm.mem_iff.mpr mem) same
  | none =>
    cases found' : c.get? name with
    | none => rfl
    | some value =>
      obtain ⟨k, same, mem⟩ := get?_eq_some found'
      rw [(distinct.perm perm).get?_of_mem (perm.mem_iff.mp mem) same] at found
      cases found

/-- Of a catalog with distinct names all entries are found after an overlay. -/
theorem get?_overlay_of_isDistinct (c : Catalog κ α) {top : Catalog κ α}
    (distinct : top.IsDistinct) (name : κ) :
    (c.overlay top).get? name = (top.get? name).or (c.get? name) := by
  rw [get?_overlay, get?_perm distinct (List.reverse_perm top).symm]

end Catalog

/-! ### Sources and targets -/

namespace Transform

/-- What a source has in a context. -/
inductive Yields (context : Context) : Value → Value → Prop
  /-- A path that leads to a value has this value. -/
  | found {path : String} {names : List String} {v : Value} (writes : Path.Writes path names)
      (leads : Path.Leads (.object context) names v) : Yields context (.text ("$" ++ path)) v
  /-- A path that leads nowhere, because a name is missing or stands after what is no object, has
  null. -/
  | lost {path : String} {names : List String} (writes : Path.Writes path names)
      (leads : ∀ v, ¬ Path.Leads (.object context) names v) :
      Yields context (.text ("$" ++ path)) .null
  /-- Anything else has itself. -/
  | literal {v : Value} (plain : ∀ path : String, v ≠ .text ("$" ++ path)) : Yields context v v

/-- What a simultaneous assignment makes of a context. -/
structure Assigns (spec : Value.Fields) (before after : Context) : Prop where
  /-- A target has what its source had before. -/
  target : ∀ e ∈ spec, ∃ v, Yields before e.2 v ∧ after.get? e.1 = some v
  /-- Under any other name there is what was there before. -/
  other : ∀ name, (∀ e ∈ spec, (e.1 == name) = false) → after.get? name = before.get? name

variable {context : Context}

theorem source_path (context : Context) (path : String) :
    source context (.text ("$" ++ path)) = Path.resolve context path := by
  rw [source, String.toList_append]
  exact congrArg (Path.resolve context) String.ofList_toList

theorem source_of_plain {v : Value} (context : Context)
    (plain : ∀ path : String, v ≠ .text ("$" ++ path)) : source context v = v := by
  unfold source
  split
  case h_1 s =>
    split
    next path written =>
      refine absurd (congrArg Value.text ?_) (plain (String.ofList path))
      rw [← String.toList_inj, String.toList_append, String.toList_ofList (l := path), written]
      rfl
    next => rfl
  case h_2 => rfl

theorem yields_iff {s v : Value} : Yields context s v ↔ source context s = v := by
  constructor
  · rintro (⟨writes, leads⟩ | ⟨writes, leads⟩ | plain)
    · rw [source_path]
      exact (Path.resolve_eq_iff context writes).mpr (.inl leads)
    · rw [source_path]
      exact (Path.resolve_eq_iff context writes).mpr (.inr ⟨leads, rfl⟩)
    · exact source_of_plain context plain
  · rintro rfl
    by_cases plain : ∀ path : String, s ≠ .text ("$" ++ path)
    · rw [source_of_plain context plain]
      exact .literal plain
    · obtain ⟨path, plain⟩ := Classical.not_forall.mp plain
      obtain rfl := Classical.not_not.mp plain
      have writes : Path.Writes path (Text.split '.' path) := Path.writes_iff.mpr rfl
      rw [source_path]
      rcases (Path.resolve_eq_iff context writes).mp rfl with leads | ⟨lost, null⟩
      · exact .found writes leads
      · rw [null]
        exact .lost writes lost

/-- A name after the dollar sign has what is in the context under this name. -/
theorem source_name (context : Context) {name : String} (free : '.' ∉ name.toList) :
    source context (.text ("$" ++ name)) = (context.get? name).getD .null := by
  have single := Path.writes_iff.mp (Path.writes_singleton free)
  rw [source_path, Path.resolve, single]
  cases found : context.get? name <;> simp [Path.walk?, Path.step?, Value.fields?, found]

theorem isDistinct_values {spec : Value.Fields} (distinct : spec.IsDistinct) (context : Context) :
    (values spec context).IsDistinct :=
  List.pairwise_map.mpr distinct

/-- What is found after the values of a transform were written. -/
theorem get?_overlay_values {spec : Value.Fields} (distinct : spec.IsDistinct) (context : Context)
    (name : Name) :
    (context.overlay (values spec context)).get? name =
      ((spec.get? name).map (source context)).or (context.get? name) := by
  rw [Catalog.get?_overlay_of_isDistinct context (isDistinct_values distinct context), get?_values]

theorem assigns_overlay {spec : Value.Fields} (distinct : spec.IsDistinct) (context : Context) :
    Assigns spec context (context.overlay (values spec context)) where
  target e mem := by
    refine ⟨source context e.2, yields_iff.mpr rfl, ?_⟩
    rw [get?_overlay_values distinct, distinct.get?_of_mem mem BEq.rfl]
    rfl
  other name untouched := by
    have missing : spec.get? name = none := by
      rw [← Option.not_isSome_iff_eq_none, Catalog.get?_isSome_iff]
      rintro ⟨k, named, same⟩
      obtain ⟨e, mem, rfl⟩ := List.mem_map.mp named
      rw [untouched e mem] at same
      cases same
    rw [get?_overlay_values distinct, missing]
    rfl

end Transform

/-! ### Transform nodes -/

section Visits

variable {σ : Type} (respond : Responder NodeCall NodeCall.Reply σ)

/-- Whether transforms of a context are answered with the values that they describe, and in no other
way. -/
def AnswersTransforms (context : Context) (s : σ) : Prop :=
  ∀ spec, (respond (.transform spec context) s).1 =
    { result := (Transform.apply spec context).map fun fs => .whole (.object fs) }

/-- What a node makes of a context. -/
def Node.contextAfter (settings : WorkflowSettings) (n : Node) (context : Context) (s : σ) :
    Context :=
  context.afterAll ((n.visit settings context).run respond s).1.writes

variable {respond} {n : Node} {spec : Value.Fields} {context : Context} {s : σ}

/-- A transform node writes what its transform describes. -/
theorem Node.run_visit_transform (settings : WorkflowSettings) (kind : n.kind = .transform)
    (given : n.option "transform" = .object spec)
    (answers : AnswersTransforms respond context s) :
    ((n.visit settings context).run respond s).1 =
      { n.pass with writes := Write.puts (Transform.values spec context) } := by
  cases spec with
  | nil =>
    simp only [visit, kind, given]
    rfl
  | cons e rest =>
    have truthy : (n.option "transform").truthy = true := by
      rw [given]
      rfl
    have called : ((n.visit settings context).run respond s).1 =
        n.merge (respond (.transform (n.option "transform") context) s).1 := by
      simp only [visit, kind, if_pos truthy]
      rfl
    rw [called, answers, given]
    rfl

theorem Node.contextAfter_transform (settings : WorkflowSettings) (kind : n.kind = .transform)
    (given : n.option "transform" = .object spec)
    (answers : AnswersTransforms respond context s) :
    n.contextAfter respond settings context s =
      context.overlay (Transform.values spec context) := by
  rw [contextAfter, run_visit_transform settings kind given answers, Context.afterAll_puts]

/-- **A transform is a simultaneous assignment.** Whatever the names and the sources of a transform
are, its node passes the walk on, every target has what its source had in the context before the
node, and the rest of the context is as it was. In particular a target that takes what is under
another name gets what was there before, also where the transform writes to that name as well. A
transform with the same entries in another order makes the same of the context. -/
theorem Node.visit_assigns (settings : WorkflowSettings) (kind : n.kind = .transform)
    (given : n.option "transform" = .object spec) (distinct : spec.IsDistinct)
    (answers : AnswersTransforms respond context s) :
    let after := n.contextAfter respond settings context s
    ((n.visit settings context).run respond s).1.next = .ok (.goOn n.connections.next) ∧
    Transform.Assigns spec context after ∧
    (∀ (target : Name) (name : String), (target, .text ("$" ++ name)) ∈ spec →
      '.' ∉ name.toList → after.get? target = some ((context.get? name).getD .null)) ∧
    ∀ (m : Node) (reordered : Value.Fields), m.kind = .transform →
      m.option "transform" = .object reordered → reordered.Perm spec →
      ∀ name, (m.contextAfter respond settings context s).get? name = after.get? name := by
  intro after
  have written : after = context.overlay (Transform.values spec context) :=
    contextAfter_transform settings kind given answers
  rw [written]
  refine ⟨?_, Transform.assigns_overlay distinct context, ?_, ?_⟩
  · rw [run_visit_transform settings kind given answers]
    rfl
  · intro target name mem free
    rw [Transform.get?_overlay_values distinct, distinct.get?_of_mem mem BEq.rfl, Option.map_some,
      Transform.source_name context free]
    rfl
  · intro m reordered kind' given' perm name
    have distinct' : reordered.IsDistinct := distinct.perm perm.symm
    rw [contextAfter_transform settings kind' given' answers,
      Transform.get?_overlay_values distinct', Transform.get?_overlay_values distinct,
      Catalog.get?_perm distinct' perm]

/-- The engine for rehearsals answers transforms, unless the answers are scripted. -/
theorem answersTransforms_respondNode {e : Rehearsal.Engine} (unscripted : e.transformed = none)
    (context : Context) : AnswersTransforms Rehearsal.Engine.respondNode context e := by
  intro spec
  rw [Rehearsal.Engine.respondNode, unscripted]
  cases Transform.apply spec context <;> rfl

end Visits

/-- A node that exchanges two values, and takes a third one out of one of them. -/
def Node.exchangeSample : Node where
  id := "exchange"
  kind := .transform
  label := ""
  config := [("transform", .object [("a", "$b"), ("b", "$a"), ("size", "$a.size")])]
  connections := { next := some "end" }
  rawKind := none

/-- The values are exchanged, and the third one is taken from where it was before. -/
theorem Node.visit_assigns_sample :
    let engine : Rehearsal.Engine := { now := default }
    let before : Context := [("a", .object [("size", .int 3)]), ("b", .int 1), ("c", .int 2)]
    let after :=
      exchangeSample.contextAfter Rehearsal.Engine.respondNode {} before engine
    after.get? "a" = some (.int 1) ∧ after.get? "b" = some (.object [("size", .int 3)]) ∧
      after.get? "size" = some (.int 3) ∧ after.get? "c" = some (.int 2) := by
  intro engine before after
  have distinct : Catalog.IsDistinct (κ := Name) (α := Value)
      [("a", "$b"), ("b", "$a"), ("size", "$a.size")] := by
    simp [Catalog.IsDistinct]
  obtain ⟨-, assigns, exchanged, -⟩ :=
    visit_assigns (n := exchangeSample) {} rfl rfl distinct
      (answersTransforms_respondNode (e := engine) rfl before)
  obtain ⟨v, yields, taken⟩ := assigns.target ("size", "$a.size") (by simp)
  refine ⟨exchanged "a" "b" (by simp) (by simp), exchanged "b" "a" (by simp) (by simp), ?_,
    assigns.other "c" (by simp)⟩
  rw [← Transform.yields_iff.mp yields] at taken
  exact taken.trans rfl

end Fulfilment
