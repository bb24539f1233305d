import Fulfilment.Proofs.Routes

/-!
# Revisions of definitions

A definition that was read from a document can be written as a document and read again, and it is
the same definition: nothing depends on the names under which its members were given, and a word for
an unknown kind is put aside only once. A registered workflow is revised by writing it, entering the
updates and reading the result. What the updates do not mention is therefore as it was, except for
the time of the last change; the identifier is not for the updates to say.

## Main definitions

* `Workflow.IsLegible` - whether a workflow is read as it was once it is written
* `Workflow.IsRevision` - what updates make of a workflow
* `RegistryChange`, `Registry.changed` - what changes a registry

## Main results

* `Workflow.check_document` - a workflow that is written is read as it was
* `Registry.revised_eq_ok_iff` - a revision, member by member
* `Registry.Filed.changed` - every workflow is registered under its own identifier
* `Registry.revisions_faithful` - writing and revising, after any changes of a registry
-/

namespace Fulfilment

namespace Schema

open Checked

variable {α : Type}

/-! ### Members of an object -/

section Members

variable {fs : Value.Fields} {k : Key} {name : String} {v : Value} {a default : α}
  {check : Value → Checked α}

theorem required_of_find? (there : k.find? fs = some (name, v)) (valid : check v = .accepted a) :
    required fs k check = .accepted a := by
  simp only [required, there, valid, under_accepted]

theorem exists_of_required (accepted : required fs k check = .accepted a) :
    ∃ v, check v = .accepted a := by
  unfold required at accepted
  split at accepted
  next name v _ => exact ⟨v, under_eq_accepted_iff.mp accepted⟩
  · cases accepted

theorem optional_of_find? (there : k.find? fs = some (name, v)) (valid : check v = .accepted a) :
    optional fs k default check = .accepted a := by
  simp only [optional, there, valid, under_accepted]

/-- What holds of the default and of everything that a check accepts holds of what was read. -/
theorem of_optional {P : α → Prop} (absent : P default) (each : ∀ v a, check v = .accepted a → P a)
    (accepted : optional fs k default check = .accepted a) : P a := by
  unfold optional at accepted
  split at accepted
  next name v _ => exact each v a (under_eq_accepted_iff.mp accepted)
  · cases accepted
    exact absent

end Members

section Overlay

variable {base : Value.Fields} {name : String} {v : Value} {a default : α}
  {check : Value → Checked α}

/-- A member without a second name is found under its only one. -/
theorem Key.find?_name (name : String) (fs : Value.Fields) :
    Key.find? name fs = (fs.get? name).map (name, ·) := by
  unfold Key.find?
  cases fs.get? (name : Name) <;> rfl

/-- Where members are entered over others, one that was there is the default of the new ones. -/
theorem optional_overlay (there : base.get? name = some v) (valid : check v = .accepted a)
    (us : Value.Fields) :
    optional (base.overlay us) name default check = optional (.ofEntries us) name a check := by
  simp only [optional, Key.find?_name, Catalog.ofEntries, Catalog.get?_overlay, there]
  cases Catalog.get? us.reverse (name : Name) with
  | none => simp [valid]
  | some u => rfl

theorem required_overlay (there : base.get? name = some v) (valid : check v = .accepted a)
    (us : Value.Fields) :
    required (base.overlay us) name check = optional (.ofEntries us) name a check := by
  simp only [required, optional, Key.find?_name, Catalog.ofEntries, Catalog.get?_overlay, there]
  cases Catalog.get? us.reverse (name : Name) with
  | none => simp [valid]
  | some u => rfl

end Overlay

theorem nonEmptyText_eq_accepted_iff {v : Value} {s : String} :
    nonEmptyText v = .accepted s ↔ v = .text s ∧ s ≠ "" := by
  cases v with
  | text t =>
    by_cases empty : t = ""
    · simp [nonEmptyText, text, andThen, refuse, empty]
    · simp [nonEmptyText, text, andThen, empty]
      rintro rfl
      exact empty
  | _ => simp [nonEmptyText, text, andThen, refuse]

/-! ### What is written is read as it was -/

theorem nullable_some {check : Value → Checked α} {v : Value} {a : α} (given : v ≠ .null)
    (valid : check v = .accepted a) : nullable check v = .accepted (some a) := by
  have some : nullable check v = some <$> check v := by
    cases v <;> first | rfl | exact absurd rfl given
  rw [some, valid, map_accepted]

theorem nullable_ofText? (s? : Option String) : nullable text (.ofText? s?) = .accepted s? := by
  cases s? <;> rfl

theorem nullable_ofTimestamp? (t? : Option Timestamp) :
    nullable timestamp (.ofTimestamp? t?) = .accepted t? := by
  cases t? <;> rfl

theorem itemsFrom_map {check : Value → Checked α} {document : α → Value} {as : List α}
    (each : ∀ a ∈ as, check (document a) = .accepted a) (i : Nat) :
    itemsFrom check i (as.map document) = .accepted as := by
  induction as generalizing i with
  | nil => rfl
  | cons a as ih =>
    rw [List.forall_mem_cons] at each
    rw [List.map_cons, itemsFrom, each.1, ih each.2]
    rfl

/-- A free object that is written is read as it was. -/
theorem object_of_namedByTexts {fs : Value.Fields} (named : NamedByTexts fs) :
    object (.object fs) = .accepted fs :=
  object_eq_accepted_iff.mpr ⟨rfl, named⟩

/-- The names of a free object that was read are texts. -/
theorem namedByTexts_of_optional {fs given : Value.Fields} {k : Key}
    (accepted : optional given k [] object = .accepted fs) : NamedByTexts fs :=
  of_optional (by simp [NamedByTexts]) (fun _ _ valid => (object_eq_accepted_iff.mp valid).2)
    accepted

/-- What holds of everything that a check accepts holds of a value that may be null. -/
theorem forall_of_nullable {check : Value → Checked α} {P : α → Prop}
    (each : ∀ v a, check v = .accepted a → P a) {v : Value} {a? : Option α}
    (accepted : nullable check v = .accepted a?) : ∀ a ∈ a?, P a := by
  unfold nullable at accepted
  split at accepted
  · cases accepted
    simp
  · obtain ⟨a, valid, rfl⟩ := map_eq_accepted_iff.mp accepted
    rintro _ ⟨⟩
    exact each _ a valid

/-- A list whose items are written is read as it was. -/
theorem listOf_map {check : Value → Checked α} {document : α → Value} {as : List α}
    (each : ∀ a ∈ as, check (document a) = .accepted a) :
    listOf check (.list (as.map document)) = .accepted as :=
  itemsFrom_map each 0

/-- What holds of everything that a check accepts holds of the items of a list that is accepted. -/
theorem forall_of_itemsFrom {check : Value → Checked α} {P : α → Prop}
    (each : ∀ v a, check v = .accepted a → P a) {i : Nat} {vs : List Value} {as : List α}
    (accepted : itemsFrom check i vs = .accepted as) : ∀ a ∈ as, P a := by
  induction vs generalizing i as with
  | nil =>
    cases accepted
    simp
  | cons v vs ih =>
    obtain ⟨_, as, first, rest, rfl⟩ := seq_eq_accepted_iff.mp accepted
    obtain ⟨a, valid, rfl⟩ := map_eq_accepted_iff.mp first
    rw [List.forall_mem_cons]
    exact ⟨each v a (under_eq_accepted_iff.mp valid), ih rest⟩

end Schema

open Schema Schema.Checked

/-- Connections that are written are found under the other names of the members. -/
theorem Connections.check_document (c : Connections) : check c.document = .accepted c := by
  let fs : Value.Fields :=
    [("next", .ofText? c.next), ("on_true", .ofText? c.onTrue), ("on_false", .ofText? c.onFalse)]
  have next : perhaps fs "next" text = .accepted c.next :=
    optional_of_find? rfl (nullable_ofText? c.next)
  have onTrue : perhaps fs ⟨"onTrue", "on_true"⟩ text = .accepted c.onTrue :=
    optional_of_find? rfl (nullable_ofText? c.onTrue)
  have onFalse : perhaps fs ⟨"onFalse", "on_false"⟩ text = .accepted c.onFalse :=
    optional_of_find? rfl (nullable_ofText? c.onFalse)
  change Connections.ofFields fs = .accepted c
  rw [Connections.ofFields, next, onTrue, onFalse]
  rfl

namespace Node

theorem member_word (k : NodeKind) : member NodeKind.words (.text k.word) = .accepted k := by
  cases k <;> rfl

/-- The word of a kind is known, so nothing is put aside when a node is read again. -/
theorem putKindAside_of_word {fs : Value.Fields} {k : NodeKind}
    (there : fs.get? "type" = some (.text k.word)) : putKindAside fs = fs := by
  simp only [putKindAside, there, NodeKind.ofWord?_word]

/-- Whether a node is read as it was once it is written: it has a name, and its options are named by
texts. -/
structure IsLegible (n : Node) : Prop where
  /-- The node has a name. -/
  named : n.id ≠ ""
  /-- The options are named by texts. -/
  options : NamedByTexts n.config

theorem check_document {n : Node} (legible : n.IsLegible) : check n.document = .accepted n := by
  let fs : Value.Fields :=
    [("id", .text n.id), ("type", .text n.kind.word), ("label", .text n.label),
      ("config", .object n.config), ("connections", n.connections.document),
      ("raw_type", .ofText? n.rawKind)]
  have id : required fs "id" nonEmptyText = .accepted n.id :=
    required_of_find? rfl (nonEmptyText_eq_accepted_iff.mpr ⟨rfl, legible.named⟩)
  have kind : required fs "type" (member NodeKind.words) = .accepted n.kind :=
    required_of_find? rfl (member_word n.kind)
  have label : optional fs "label" "" text = .accepted n.label := optional_of_find? rfl rfl
  have config : optional fs "config" [] object = .accepted n.config :=
    optional_of_find? rfl (object_of_namedByTexts legible.options)
  have connections : optional fs "connections" {} Connections.check = .accepted n.connections :=
    optional_of_find? rfl n.connections.check_document
  have rawKind : perhaps fs "raw_type" text = .accepted n.rawKind :=
    optional_of_find? rfl (nullable_ofText? n.rawKind)
  change ofFields fs = .accepted n
  -- The members are all there, so none is put aside or filled in.
  have aside : putKindAside fs = fs := putKindAside_of_word (k := n.kind) rfl
  have filled : fillIn "connections" (fillIn "config" fs) = fs := rfl
  rw [ofFields, aside, filled, id, kind, label, config, connections, rawKind]
  rfl

/-- A node that was read can be read again. -/
theorem isLegible_of_check {v : Value} {n : Node} (accepted : check v = .accepted n) :
    n.IsLegible := by
  cases v with
  | object given =>
    -- The members that are read last come off first.
    obtain ⟨_, _, h₅, -, rfl⟩ := seq_eq_accepted_iff.mp accepted
    obtain ⟨_, _, h₄, -, rfl⟩ := seq_eq_accepted_iff.mp h₅
    obtain ⟨_, config, h₃, options, rfl⟩ := seq_eq_accepted_iff.mp h₄
    obtain ⟨_, _, h₂, -, rfl⟩ := seq_eq_accepted_iff.mp h₃
    obtain ⟨_, _, h₁, -, rfl⟩ := seq_eq_accepted_iff.mp h₂
    obtain ⟨id, read, rfl⟩ := map_eq_accepted_iff.mp h₁
    obtain ⟨v, valid⟩ := exists_of_required read
    exact ⟨(nonEmptyText_eq_accepted_iff.mp valid).2, namedByTexts_of_optional options⟩
  | _ => cases accepted

end Node

namespace WorkflowTrigger

/-- Whether a trigger is read as it was once it is written: its options are named by texts. -/
def IsLegible (t : WorkflowTrigger) : Prop := NamedByTexts t.config

theorem check_document {t : WorkflowTrigger} (legible : t.IsLegible) :
    check t.document = .accepted t := by
  let fs : Value.Fields := [("type", .text t.occasion.word), ("config", .object t.config)]
  have word : choice Occasion.words (.text t.occasion.word) = .accepted t.occasion := by
    cases t.occasion <;> rfl
  have occasion : optional fs "type" .manual (choice Occasion.words) = .accepted t.occasion :=
    optional_of_find? rfl word
  have config : optional fs "config" [] object = .accepted t.config :=
    optional_of_find? rfl (object_of_namedByTexts legible)
  change ofFields fs = .accepted t
  rw [ofFields, occasion, config]
  rfl

theorem nullable_document {t? : Option WorkflowTrigger} (legible : ∀ t ∈ t?, t.IsLegible) :
    nullable check ((t?.map document).getD .null) = .accepted t? := by
  cases t? with
  | none => rfl
  | some t => exact nullable_some (by simp [document]) (check_document (legible t rfl))

theorem isLegible_of_check {v : Value} {t : WorkflowTrigger} (accepted : check v = .accepted t) :
    t.IsLegible := by
  cases v with
  | object given =>
    obtain ⟨_, config, h, options, rfl⟩ := seq_eq_accepted_iff.mp accepted
    obtain ⟨_, -, rfl⟩ := map_eq_accepted_iff.mp h
    exact namedByTexts_of_optional options
  | _ => cases accepted

end WorkflowTrigger

namespace Workflow

variable {w : Workflow}

/-- Whether a workflow is read as it was once it is written. -/
structure IsLegible (w : Workflow) : Prop where
  /-- All nodes are. -/
  nodes : ∀ n ∈ w.nodes, n.IsLegible
  /-- The values that the context starts from are named by texts. -/
  presets : NamedByTexts w.presets
  /-- The trigger is, if there is one. -/
  trigger : ∀ t ∈ w.trigger, t.IsLegible

/-- A workflow that was read can be read again. -/
theorem isLegible_of_check {v : Value} (accepted : check v = .accepted w) : w.IsLegible := by
  cases v with
  | object given =>
    -- The members that are read last come off first.
    obtain ⟨_, _, h₇, -, rfl⟩ := seq_eq_accepted_iff.mp accepted
    obtain ⟨_, _, h₆, -, rfl⟩ := seq_eq_accepted_iff.mp h₇
    obtain ⟨_, trigger, h₅, started, rfl⟩ := seq_eq_accepted_iff.mp h₆
    obtain ⟨_, presets, h₄, values, rfl⟩ := seq_eq_accepted_iff.mp h₅
    obtain ⟨_, nodes, h₃, read, rfl⟩ := seq_eq_accepted_iff.mp h₄
    obtain ⟨_, _, h₂, -, rfl⟩ := seq_eq_accepted_iff.mp h₃
    obtain ⟨_, _, h₁, -, rfl⟩ := seq_eq_accepted_iff.mp h₂
    obtain ⟨_, -, rfl⟩ := map_eq_accepted_iff.mp h₁
    refine ⟨?_, namedByTexts_of_optional values, ?_⟩
    · refine of_optional (P := fun nodes : List Node => ∀ n ∈ nodes, n.IsLegible) (by simp) ?_ read
      intro v nodes listed
      cases v with
      | list vs => exact forall_of_itemsFrom (fun _ _ => Node.isLegible_of_check) listed
      | _ => cases listed
    · refine of_optional (P := fun t? : Option WorkflowTrigger => ∀ t ∈ t?, t.IsLegible) (by simp)
        ?_ started
      exact fun v t? => forall_of_nullable fun _ _ => WorkflowTrigger.isLegible_of_check
  | _ => cases accepted

/-- A workflow over whose members others are entered, member by member. -/
theorem ofFields_overlay (legible : w.IsLegible) (us : Value.Fields) :
    let entered : Value.Fields := .ofEntries us
    ofFields (w.toFields.overlay us) = Workflow.mk <$> optional entered "id" w.id text
      <*> optional entered "name" w.name text
      <*> optional entered "description" w.description (nullable text)
      <*> optional entered "nodes" w.nodes (listOf Node.check)
      <*> optional entered "variables" w.presets object
      <*> optional entered "trigger" w.trigger (nullable WorkflowTrigger.check)
      <*> optional entered "created_at" w.createdAt (nullable timestamp)
      <*> optional entered "updated_at" w.updatedAt (nullable timestamp) := by
  have nodes : listOf Node.check (.list (w.nodes.map Node.document)) = .accepted w.nodes :=
    listOf_map fun n mem => Node.check_document (legible.nodes n mem)
  have presets := object_of_namedByTexts legible.presets
  have trigger := WorkflowTrigger.nullable_document legible.trigger
  have createdAt := nullable_ofTimestamp? w.createdAt
  have updatedAt := nullable_ofTimestamp? w.updatedAt
  intro entered
  -- What the entries do not say is read from what was written of the workflow.
  simp only [ofFields, perhaps]
  rw [optional_overlay (a := w.id) rfl rfl, required_overlay (a := w.name) rfl rfl,
    optional_overlay rfl (nullable_ofText? w.description), optional_overlay rfl nodes,
    optional_overlay rfl presets, optional_overlay rfl trigger,
    optional_overlay rfl createdAt, optional_overlay rfl updatedAt]

/-- **A workflow that is written is read as it was.** -/
theorem check_document (legible : w.IsLegible) : check w.document = .accepted w :=
  ofFields_overlay legible []

/-! ### Revisions -/

/-- What updates make of a member: what they say of it, or what it was if they do not mention it. -/
def MemberRevised {α : Type} (us : Value.Fields) (name : String) (check : Value → Checked α)
    (old new : α) : Prop :=
  match (Catalog.ofEntries us).get? (name : Name) with
  | none => new = old
  | some v => check v = .accepted new

/-- What updates make of a workflow. The identifier is not for them to say, nor is the time of the
change. -/
structure IsRevision (w : Workflow) (us : Value.Fields) (now : Timestamp) (w' : Workflow) :
    Prop where
  /-- The identifier stays. -/
  id : w'.id = w.id
  /-- What the workflow is called. -/
  name : MemberRevised us "name" text w.name w'.name
  /-- What the workflow is for. -/
  description : MemberRevised us "description" (nullable text) w.description w'.description
  /-- The nodes. -/
  nodes : MemberRevised us "nodes" (listOf Node.check) w.nodes w'.nodes
  /-- The values that the context starts from. -/
  presets : MemberRevised us "variables" object w.presets w'.presets
  /-- How the workflow is meant to be started. -/
  trigger : MemberRevised us "trigger" (nullable WorkflowTrigger.check) w.trigger w'.trigger
  /-- When the workflow was registered first. -/
  createdAt : MemberRevised us "created_at" (nullable timestamp) w.createdAt w'.createdAt
  /-- The change is noted. -/
  updatedAt : w'.updatedAt = some now

theorem optional_eq_accepted_iff {α : Type} {us : Value.Fields} {name : String}
    {check : Value → Checked α} {old new : α} :
    Schema.optional (.ofEntries us) name old check = .accepted new ↔
      MemberRevised us name check old new := by
  unfold Schema.optional MemberRevised
  rw [Key.find?_name]
  cases (Catalog.ofEntries us).get? (name : Name) with
  | none => simp [eq_comm]
  | some v => exact under_eq_accepted_iff

end Workflow

namespace Registry

variable {r : Registry} {w w' : Workflow} {now : Timestamp} {us : Value.Fields}

theorem ofChecked_eq_ok_iff {α : Type} {x : Checked α} {a : α} :
    Failure.ofChecked x = .ok a ↔ x = .accepted a := by
  cases x <;> simp [Failure.ofChecked]

/-- A member that the updates have no say in is left to them otherwise. -/
theorem optional_entered {α : Type} {us fixed : Value.Fields} {name : String}
    (free : Catalog.get? fixed.reverse (name : Name) = none) (default : α)
    (check : Value → Checked α) :
    Schema.optional ((Catalog.ofEntries us).overlay fixed) name default check =
      Schema.optional (.ofEntries us) name default check := by
  simp only [Schema.optional, Key.find?_name, Catalog.get?_overlay, free, Option.none_or]

/-- A revision succeeds with what the updates make of the workflow, if they make anything of it. -/
theorem revised_eq_ok_iff (legible : w.IsLegible) :
    revised now w w.id (.object us) = .ok w' ↔ w.IsRevision us now w' := by
  let fixed : Value.Fields := [("id", .text w.id), ("updated_at", .timestamp now)]
  have whole : revised now w w.id (.object us) =
      Failure.ofChecked (Workflow.ofFields (w.toFields.overlay (us ++ fixed))) := by
    rw [Catalog.overlay, List.foldl_append]
    rfl
  have entered : (Catalog.ofEntries (us ++ fixed) : Value.Fields) =
      (Catalog.ofEntries us).overlay fixed := List.foldl_append
  -- The two fixed members are entered last, and the others are left to the updates.
  have id : Key.find? "id" ((Catalog.ofEntries us).overlay fixed) = some ("id", .text w.id) := by
    rw [Key.find?_name, Catalog.get?_overlay]
    rfl
  have updatedAt : Key.find? "updated_at" ((Catalog.ofEntries us).overlay fixed) =
      some ("updated_at", .timestamp now) := by
    rw [Key.find?_name, Catalog.get?_overlay]
    rfl
  rw [whole, Workflow.ofFields_overlay legible, entered, optional_of_find? (a := w.id) id rfl,
    optional_of_find? (a := some now) updatedAt rfl, optional_entered rfl w.name,
    optional_entered rfl w.description, optional_entered rfl w.nodes,
    optional_entered rfl w.presets, optional_entered rfl w.trigger,
    optional_entered rfl w.createdAt, ofChecked_eq_ok_iff]
  constructor
  · simp only [seq_eq_accepted_iff, map_eq_accepted_iff, Workflow.optional_eq_accepted_iff]
    rintro ⟨_, _, ⟨_, _, ⟨_, _, ⟨_, _, ⟨_, _, ⟨_, _, ⟨_, _, ⟨_, ⟨⟩, rfl⟩, name, rfl⟩, description,
      rfl⟩, nodes, rfl⟩, presets, rfl⟩, trigger, rfl⟩, createdAt, rfl⟩, ⟨⟩, rfl⟩
    exact ⟨rfl, name, description, nodes, presets, trigger, createdAt, rfl⟩
  · intro h
    rw [Workflow.optional_eq_accepted_iff.mpr h.name,
      Workflow.optional_eq_accepted_iff.mpr h.description,
      Workflow.optional_eq_accepted_iff.mpr h.nodes,
      Workflow.optional_eq_accepted_iff.mpr h.presets,
      Workflow.optional_eq_accepted_iff.mpr h.trigger,
      Workflow.optional_eq_accepted_iff.mpr h.createdAt, ← h.id, ← h.updatedAt]
    rfl

/-! ### What changes a registry -/

theorem perform_registerWorkflow (now : Timestamp) (v : Value) (r : Registry) :
    (registerWorkflow now v).perform r =
      match Workflow.check v with
      | .refused issues => (.error (.invalid issues), r)
      | .accepted w => (.ok (r.addWorkflow now w).1, (r.addWorkflow now w).2) := by
  rw [registerWorkflow, Registration.perform_bind, Registration.perform_lift]
  cases Workflow.check v <;> rfl

/-- A revision that is refused changes nothing, and neither does one of a workflow that is not
registered. -/
theorem perform_reviseWorkflow (now : Timestamp) (id : String) (updates : Value) (r : Registry) :
    (reviseWorkflow now (.text id) updates).perform r =
      match r.workflows.get? id with
      | none => (.ok none, r)
      | some w =>
        match revised now w id updates with
        | .error f => (.error f, r)
        | .ok w' => (.ok (some w'), { r with workflows := r.workflows.put id w' }) := by
  have looked : (get : Registration Registry).perform r = (.ok r, r) := rfl
  simp only [reviseWorkflow, Registration.perform_bind, looked]
  cases r.workflows.get? id with
  | none => rfl
  | some w =>
    simp only [Registration.perform_bind]
    rw [Registration.perform_lift]
    cases revised now w id updates <;> rfl

/-- Whatever identifier is given, a registry is changed only by a revision that succeeds. -/
theorem perform_of_unrevised {now : Timestamp} {id updates : Value} {r : Registry}
    (unrevised : ∀ w, ((reviseWorkflow now id updates).perform r).1 ≠ .ok (some w)) :
    ((reviseWorkflow now id updates).perform r).2 = r := by
  cases id with
  | text id =>
    rw [perform_reviseWorkflow] at unrevised ⊢
    cases found : r.workflows.get? id with
    | none => rfl
    | some w =>
      simp only [found] at unrevised ⊢
      cases done : revised now w id updates with
      | error f => rfl
      | ok w' =>
        simp only [done] at unrevised
        exact absurd rfl (unrevised w')
  | _ => rfl

end Registry

/-- What changes a registry. -/
inductive RegistryChange where
  /-- Registers the workflow that a document describes. -/
  | workflow (v : Value)
  /-- Registers the form that a document describes. -/
  | form (v : Value)
  /-- Registers the endpoint that a document describes. -/
  | endpoint (v : Value)
  /-- Registers definitions. -/
  | load (d : Registry.Definitions)
  /-- Changes members of a workflow. -/
  | revise (id updates : Value)
  /-- Removes the workflow of an identifier. -/
  | removeWorkflow (id : Value)
  /-- Removes the form of an identifier. -/
  | removeForm (id : Value)
  /-- Removes the endpoint of an identifier. -/
  | removeEndpoint (id : Value)

namespace Registry

variable {r : Registry} {w w' : Workflow} {now : Timestamp} {us : Value.Fields}

/-- The registry after something was removed, or could not be. -/
def removed (r : Registry) : Except Failure (Bool × Registry) → Registry
  | .ok (_, r') => r'
  | .error _ => r

/-- The registry after a change at some time, whether it succeeds or fails. -/
def changed (r : Registry) : Timestamp × RegistryChange → Registry
  | (now, .workflow v) => ((registerWorkflow now v).perform r).2
  | (now, .form v) => ((registerForm now v).perform r).2
  | (now, .endpoint v) => ((registerEndpoint now v).perform r).2
  | (now, .load d) => ((load now d).perform r).2
  | (now, .revise id updates) => ((reviseWorkflow now id updates).perform r).2
  | (_, .removeWorkflow id) => r.removed (r.deleteWorkflow id)
  | (_, .removeForm id) => r.removed (r.deleteForm id)
  | (_, .removeEndpoint id) => r.removed (r.deleteEndpoint id)

/-- Whether every workflow is registered under its own identifier, and can be read again once it is
written. -/
def Filed (r : Registry) : Prop :=
  ∀ entry ∈ r.workflows, entry.1 = entry.2.id ∧ entry.2.IsLegible

theorem Filed.congr {r' : Registry} (h : r.Filed) (same : r'.workflows = r.workflows) : r'.Filed :=
  fun entry mem => h entry (same ▸ mem)

theorem Filed.put (h : r.Filed) (legible : w.IsLegible) :
    Filed { r with workflows := r.workflows.put w.id w } := by
  intro entry mem
  rcases Catalog.mem_put mem with old | ⟨name, value⟩
  · exact h entry old
  · rw [eq_of_beq name, value]
    exact ⟨rfl, legible⟩

theorem Filed.addWorkflow (h : r.Filed) (now : Timestamp) (legible : w.IsLegible) :
    (r.addWorkflow now w).2.Filed := by
  have before : (r.identify "workflow" w.id).2.Filed := h.congr (workflows_identify _ _ _)
  have stored : (r.addWorkflow now w).1.IsLegible :=
    ⟨legible.nodes, legible.presets, legible.trigger⟩
  exact before.put stored

theorem keeps_filed_registerWorkflow (now : Timestamp) (v : Value) :
    (registerWorkflow now v).Keeps Filed := by
  intro r h
  rw [perform_registerWorkflow]
  cases read : Workflow.check v with
  | refused issues => exact h
  | accepted w => exact h.addWorkflow now (Workflow.isLegible_of_check read)

theorem keeps_filed_registerForm (now : Timestamp) (v : Value) :
    (registerForm now v).Keeps Filed := by
  refine Registration.keeps_bind (Registration.keeps_lift _) fun f => ?_
  exact Registration.keeps_modifyGet fun r h => h.congr (workflows_identify _ _ _)

theorem keeps_filed_registerEndpoint (now : Timestamp) (v : Value) :
    (registerEndpoint now v).Keeps Filed := by
  intro r h
  rw [perform_registerEndpoint]
  split
  · exact h
  split
  · exact h
  · exact h.congr (workflows_identify _ _ _)

theorem keeps_filed_load (now : Timestamp) (d : Definitions) : (load now d).Keeps Filed := by
  refine Registration.keeps_bind ?_ fun _ => Registration.keeps_bind ?_ fun _ => ?_
  · exact Registration.keeps_loadEach (keeps_filed_registerWorkflow now) d.workflows
  · exact Registration.keeps_loadEach (keeps_filed_registerForm now) d.forms
  · exact Registration.keeps_loadEach (keeps_filed_registerEndpoint now) d.endpoints

theorem Filed.of_get? (h : r.Filed) {id : String} (found : r.workflows.get? id = some w) :
    w.id = id ∧ w.IsLegible := by
  obtain ⟨own, legible⟩ := h _ (Catalog.get?_eq_some_of_mem found)
  exact ⟨own.symm, legible⟩

/-- A revised workflow keeps its identifier, and it can be read again, since it was read. -/
theorem id_and_isLegible_of_revised (legible : w.IsLegible) {updates : Value}
    (done : revised now w w.id updates = .ok w') : w'.id = w.id ∧ w'.IsLegible := by
  cases updates with
  | object us =>
    exact ⟨((revised_eq_ok_iff legible).mp done).id,
      Workflow.isLegible_of_check (ofChecked_eq_ok_iff.mp done)⟩
  | _ => cases done

theorem keeps_filed_reviseWorkflow (now : Timestamp) (id updates : Value) :
    (reviseWorkflow now id updates).Keeps Filed := by
  intro r h
  cases id with
  | text id =>
    rw [perform_reviseWorkflow]
    cases found : r.workflows.get? id with
    | none => exact h
    | some w =>
      obtain ⟨rfl, legible⟩ := h.of_get? found
      cases done : revised now w w.id updates with
      | error f => simpa only [done] using h
      | ok w' =>
        obtain ⟨same, legible'⟩ := id_and_isLegible_of_revised legible done
        have put := h.put legible'
        rw [same] at put
        simpa only [done] using put
  | _ => exact h

/-- Removing takes workflows away, or leaves them alone. -/
theorem Filed.removed (h : r.Filed) {outcome : Except Failure (Bool × Registry)}
    (fewer : ∀ known r', outcome = .ok (known, r') → r'.workflows.Sublist r.workflows) :
    (r.removed outcome).Filed := by
  match outcome with
  | .error f => exact h
  | .ok (known, r') => exact fun entry mem => h entry ((fewer known r' rfl).subset mem)

/-- Each change leaves every workflow under its own identifier. -/
theorem Filed.changed (h : r.Filed) (c : Timestamp × RegistryChange) : (r.changed c).Filed := by
  obtain ⟨now, c⟩ := c
  cases c with
  | workflow v => exact keeps_filed_registerWorkflow now v r h
  | form v => exact keeps_filed_registerForm now v r h
  | endpoint v => exact keeps_filed_registerEndpoint now v r h
  | load d => exact keeps_filed_load now d r h
  | revise id updates => exact keeps_filed_reviseWorkflow now id updates r h
  | removeWorkflow id =>
    refine h.removed fun known r' deleted => ?_
    obtain ⟨⟨_, left⟩, taken, same⟩ := Failure.map_eq_ok_iff.mp deleted
    cases same
    exact sublist_without taken
  | removeForm id =>
    refine h.removed fun known r' deleted => ?_
    obtain ⟨⟨_, _⟩, -, same⟩ := Failure.map_eq_ok_iff.mp deleted
    cases same
    exact List.Sublist.refl _
  | removeEndpoint id =>
    refine h.removed fun known r' deleted => ?_
    obtain ⟨⟨_, _⟩, -, same⟩ := Failure.map_eq_ok_iff.mp deleted
    cases same
    exact List.Sublist.refl _

/-- So do any changes. -/
theorem Filed.foldl_changed (h : r.Filed) (changes : List (Timestamp × RegistryChange)) :
    (changes.foldl Registry.changed r).Filed := by
  induction changes generalizing r with
  | nil => exact h
  | cons c cs ih => exact ih (h.changed c)

/-- **Definitions are written and revised faithfully.** A workflow that was read from a document and
is written is read as it was. After any changes of a registry, revising a registered workflow
registers it as the updates have it, with the identifier that it had, and what they do not mention
stays; without updates only the time of the change is another. Whatever is refused, or is no
revision of a registered workflow, changes nothing. -/
theorem revisions_faithful :
    (∀ v w, Workflow.check v = .accepted w → Workflow.check w.document = .accepted w) ∧
    ∀ (changes : List (Timestamp × RegistryChange)) (issued : Nat),
      let r := changes.foldl changed { issued }
      (∀ id w, r.workflows.get? id = some w → w.id = id ∧
        ∀ now us,
          let outcome := (reviseWorkflow now (.text id) (.object us)).perform r
          ((∃ w', outcome.1 = .ok (some w')) ∨ ∃ issues, outcome.1 = .error (.invalid issues)) ∧
          (∀ w', outcome.1 = .ok (some w') ↔ w.IsRevision us now w') ∧
          (∀ w', outcome.1 = .ok (some w') →
            outcome.2 = { r with workflows := r.workflows.put id w' }) ∧
          (us = [] → outcome.1 = .ok (some { w with updatedAt := some now }))) ∧
      (∀ now id updates, r.workflows.get? id = none →
        (reviseWorkflow now (.text id) updates).perform r = (.ok none, r)) ∧
      ∀ now id updates,
        (∀ w', ((reviseWorkflow now id updates).perform r).1 ≠ .ok (some w')) →
        ((reviseWorkflow now id updates).perform r).2 = r := by
  refine ⟨fun v w read => Workflow.check_document (Workflow.isLegible_of_check read), ?_⟩
  intro changes issued r
  have empty : Filed { issued } := by
    intro entry mem
    cases mem
  -- So the updates are entered over the members of the workflow under its own identifier.
  have filed : r.Filed := empty.foldl_changed changes
  refine ⟨fun id w found => ?_, fun now id updates absent => ?_,
    fun _ _ _ => perform_of_unrevised⟩
  · obtain ⟨rfl, legible⟩ := filed.of_get? found
    refine ⟨rfl, ?_⟩
    intro now us outcome
    have performed : outcome =
        match revised now w w.id (.object us) with
        | .error f => (.error f, r)
        | .ok w' => (.ok (some w'), { r with workflows := r.workflows.put w.id w' }) := by
      simp only [outcome, perform_reviseWorkflow, found]
    have result_iff (w' : Workflow) : outcome.1 = .ok (some w') ↔ w.IsRevision us now w' := by
      rw [← revised_eq_ok_iff legible, performed]
      cases revised now w w.id (.object us) <;> simp
    refine ⟨?_, result_iff, ?_, ?_⟩
    · rw [performed, revised]
      cases Workflow.check _ with
      | accepted w' => exact .inl ⟨w', rfl⟩
      | refused issues => exact .inr ⟨issues, rfl⟩
    · intro w' done
      have revision := (revised_eq_ok_iff legible).mpr ((result_iff w').mp done)
      rw [performed, revision]
    · rintro rfl
      exact (result_iff _).mpr ⟨rfl, rfl, rfl, rfl, rfl, rfl, rfl, rfl⟩
  · rw [perform_reviseWorkflow, absent]

/-- A workflow with a node of an unknown kind, whose members have their other names, is registered
and renamed, and cannot be given another identifier. What is mistaken, or about a workflow that is
not registered, changes nothing. -/
theorem revisions_faithful_sample :
    let v : Value := .object [("id", "wf-1"), ("name", "One"), ("nodes", .list [.object [
      ("id", "s"), ("type", "sms"), ("config", .null),
      ("connections", .object [("onTrue", "x")])]])]
    let r := [(default, RegistryChange.workflow v)].foldl changed { issued := 0 }
    let revise (id : String) (us : Value.Fields) :=
      (reviseWorkflow default (.text id) (.object us)).perform r
    ∃ w, Workflow.check v = .accepted w ∧ Workflow.check w.document = .accepted w ∧
      w.nodes.map (fun n => (n.kind, n.rawKind, n.connections.onTrue)) =
        [(.unknown, some "sms", some "x")] ∧
      (∃ w', (revise "wf-1" [("id", "wf-2"), ("name", "Renamed")]).1 = .ok (some w') ∧
        (revise "wf-1" [("id", "wf-2"), ("name", "Renamed")]).2 =
          { r with workflows := r.workflows.put "wf-1" w' } ∧
        w'.id = "wf-1" ∧ w'.name = "Renamed" ∧ w'.nodes = w.nodes) ∧
      (revise "wf-1" [("nodes", "none")]).2 = r ∧
      revise "wf-2" [("name", "Renamed")] = (.ok none, r) := by
  intro v r revise
  let n : Node := {
    id := "s", kind := .unknown, label := "", config := []
    connections := { onTrue := some "x" }, rawKind := some "sms" }
  let w : Workflow := {
    id := "wf-1", name := "One", description := none, nodes := [n], presets := []
    trigger := none, createdAt := none, updatedAt := none }
  have read : Workflow.check v = .accepted w := rfl
  obtain ⟨written, after⟩ := revisions_faithful
  obtain ⟨registered, absent, unrevised⟩ := after [(default, .workflow v)] 0
  let stored : Workflow := { w with createdAt := some default, updatedAt := some default }
  have found : r.workflows.get? "wf-1" = some stored := rfl
  refine ⟨w, read, written v w read, rfl, ⟨{ stored with name := "Renamed" }, ?_⟩, ?_, ?_⟩
  · obtain ⟨-, outcome⟩ := registered "wf-1" stored found
    obtain ⟨-, result_iff, kept, -⟩ := outcome default [("id", "wf-2"), ("name", "Renamed")]
    have done := (result_iff { stored with name := "Renamed" }).mpr
      ⟨rfl, rfl, rfl, rfl, rfl, rfl, rfl, rfl⟩
    exact ⟨done, kept _ done, rfl, rfl, rfl⟩
  · refine unrevised default "wf-1" (.object [("nodes", "none")]) fun w' done => ?_
    cases done
  · exact absent default "wf-2" (.object [("name", "Renamed")]) rfl

end Registry

end Fulfilment
