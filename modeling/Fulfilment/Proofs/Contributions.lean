import Fulfilment.Proofs.Itinerary

/-!
# The context of an execution

One context is handed from node to node. What an execution leaves in it is the fold of what the
nodes on its way contribute, one after the other: a service and a transform the object that they
produce, an action its own writes, every other node nothing. A node at which the execution fails
contributes nothing, unless it is an action, whose writes before the failure stay.

This takes collaborators that keep to what they are asked for. Every one of them is handed the
context itself, so a service, a transform or a sender may write on it as an action does, and what it
has written stays as well; and of an object that fails when it is read, the members before the
failure stay. These are contributions too.

## Main definitions

* `Contribution`, `Contribution.on` - what a node contributes, and a context with it
* `Node.Contributes`, `Node.Leaves` - the contribution of a node that was visited, and of one at
  which the execution failed
* `Stop.contribution`, `Context.folded` - the contribution at a stop, and a context with those at
  several
* `NodeEvent.IsRestrained` - whether a collaborator keeps to what it is asked for
* `Workflow.Accrued` - whether the context of an execution is what the nodes of the workflow have
  contributed

## Main results

* `Workflow.Itinerary.after_eq`, `Workflow.Itinerary.before_eq` - the context after and on the way
* `Node.Contributes.own_eq_nil`, `Node.Contributes.eq_nothing`, `Node.Leaves.eq_nothing` - what is
  contributed under restraint
* `Context.lasts` - without removals no name disappears
* `execute_accrued` - the context of every execution
-/

namespace Fulfilment

open Program

/-! ### Contributions -/

/-- What a node contributes to the context: what its collaborator has written by itself, and then
the members of the object that it has produced. -/
structure Contribution where
  /-- The writes. -/
  own : List Write := []
  /-- The members, which overlay the context. -/
  produced : Value.Fields := []

/-- A context with a contribution. -/
def Contribution.on (k : Contribution) (c : Context) : Context :=
  (c.afterAll k.own).overlay k.produced

/-- What a node contributes when it was visited in a context, by its calls with their replies. -/
inductive Node.Contributes (n : Node) (before : Context) :
    List NodeEvent → Contribution → Prop where
  /-- A service has returned an object. -/
  | served (kind : n.kind = .apiCall) (named : (n.option "endpoint").truthy = true)
      (ws : List Write) (fs : Value.Fields) :
      Contributes n before
        [⟨.service (n.option "endpoint") before n.config, ⟨ws, .ok (.whole (.object fs))⟩⟩] ⟨ws, fs⟩
  /-- A service has returned null. -/
  | servedNothing (kind : n.kind = .apiCall) (named : (n.option "endpoint").truthy = true)
      (ws : List Write) :
      Contributes n before
        [⟨.service (n.option "endpoint") before n.config, ⟨ws, .ok (.whole .null)⟩⟩] ⟨ws, []⟩
  /-- The context before the node was transformed. -/
  | transformed (kind : n.kind = .transform) (named : (n.option "transform").truthy = true)
      (ws : List Write) (fs : Value.Fields) :
      Contributes n before
        [⟨.transform (n.option "transform") before, ⟨ws, .ok (.whole (.object fs))⟩⟩] ⟨ws, fs⟩
  /-- The context before the node was transformed to null. -/
  | transformedNothing (kind : n.kind = .transform)
      (named : (n.option "transform").truthy = true) (ws : List Write) :
      Contributes n before
        [⟨.transform (n.option "transform") before, ⟨ws, .ok (.whole .null)⟩⟩] ⟨ws, []⟩
  /-- An action was run. -/
  | acted (kind : n.kind = .action) (named : (n.option "action").truthy = true)
      (ws : List Write) :
      Contributes n before
        [⟨.act (actionOf (n.option "action")).1 (actionOf (n.option "action")).2 before,
          ⟨ws, .ok ()⟩⟩] ⟨ws, []⟩
  /-- A message was sent, delivered or not. -/
  | messaged (kind : n.kind = .email ∨ n.kind = .notification) (ws : List Write)
      (delivered : Bool) :
      Contributes n before [⟨.send n.kind.word n.config before, ⟨ws, .ok delivered⟩⟩] ⟨ws, []⟩
  /-- The option that says what to do is missing, and nothing was called. -/
  | idle (option : String) (kind : (n.kind = .action ∧ option = "action") ∨
      (n.kind = .apiCall ∧ option = "endpoint") ∨ (n.kind = .transform ∧ option = "transform"))
      (missing : (n.option option).truthy = false) : Contributes n before [] {}
  /-- The node is of another kind, and hands the context to nobody. -/
  | other (kind : n.kind ∉ [NodeKind.action, .apiCall, .transform, .email, .notification])
      (calls : List NodeEvent) : Contributes n before calls {}

/-- What a node contributes when the execution failed at it. -/
inductive Node.Leaves (n : Node) (before : Context) : List NodeEvent → Contribution → Prop where
  /-- An action has failed after some writes. -/
  | acted (kind : n.kind = .action) (ws : List Write) (f : Failure) :
      Leaves n before
        [⟨.act (actionOf (n.option "action")).1 (actionOf (n.option "action")).2 before,
          ⟨ws, .error f⟩⟩] ⟨ws, []⟩
  /-- A service has failed. -/
  | served (kind : n.kind = .apiCall) (ws : List Write) (f : Failure) :
      Leaves n before [⟨.service (n.option "endpoint") before n.config, ⟨ws, .error f⟩⟩] ⟨ws, []⟩
  /-- A service has returned what is neither an object nor null. -/
  | servedOther (kind : n.kind = .apiCall) (ws : List Write) (v : Value) (some : v ≠ .null)
      (other : ∀ fs, v ≠ .object fs) :
      Leaves n before [⟨.service (n.option "endpoint") before n.config, ⟨ws, .ok (.whole v)⟩⟩]
        ⟨ws, []⟩
  /-- A service has returned an object that cannot be read to its end. -/
  | servedBroken (kind : n.kind = .apiCall) (ws : List Write) (fs : Value.Fields) (f : Failure) :
      Leaves n before
        [⟨.service (n.option "endpoint") before n.config, ⟨ws, .ok (.broken fs f)⟩⟩] ⟨ws, fs⟩
  /-- A transform has failed. -/
  | transformed (kind : n.kind = .transform) (ws : List Write) (f : Failure) :
      Leaves n before [⟨.transform (n.option "transform") before, ⟨ws, .error f⟩⟩] ⟨ws, []⟩
  /-- A transform has produced what is neither an object nor null. -/
  | transformedOther (kind : n.kind = .transform) (ws : List Write) (v : Value) (some : v ≠ .null)
      (other : ∀ fs, v ≠ .object fs) :
      Leaves n before [⟨.transform (n.option "transform") before, ⟨ws, .ok (.whole v)⟩⟩] ⟨ws, []⟩
  /-- A transform has produced an object that cannot be read to its end. -/
  | transformedBroken (kind : n.kind = .transform) (ws : List Write) (fs : Value.Fields)
      (f : Failure) :
      Leaves n before [⟨.transform (n.option "transform") before, ⟨ws, .ok (.broken fs f)⟩⟩]
        ⟨ws, fs⟩
  /-- A message could not be sent. -/
  | messaged (kind : n.kind = .email ∨ n.kind = .notification) (ws : List Write) (f : Failure) :
      Leaves n before [⟨.send n.kind.word n.config before, ⟨ws, .error f⟩⟩] ⟨ws, []⟩
  /-- The node is of another kind, and hands the context to nobody. -/
  | other (kind : n.kind ∉ [NodeKind.action, .apiCall, .transform, .email, .notification])
      (calls : List NodeEvent) : Leaves n before calls {}

/-- The members that were read of what was produced. -/
def Produced.members : Produced → Value.Fields
  | .whole (.object fs) => fs
  | .whole _ => []
  | .broken fs _ => fs

theorem Produced.members_whole {v : Value} (other : ∀ fs, v ≠ .object fs) :
    (whole v).members = [] := by
  cases v with
  | object fs => exact absurd rfl (other fs)
  | _ => rfl

/-- What is contributed by a service or a transform. -/
def ContextReply.contribution (r : ContextReply Produced) : Contribution where
  own := r.writes
  produced :=
    match r.result with
    | .ok p => p.members
    | .error _ => []

/-- The contribution that is in the replies to a node. -/
def contributionOf : List NodeEvent → Contribution
  | [⟨.act .., reply⟩] => { own := reply.writes }
  | [⟨.service .., reply⟩] => reply.contribution
  | [⟨.transform .., reply⟩] => reply.contribution
  | [⟨.send .., reply⟩] => { own := reply.writes }
  | _ => {}

/-- The contribution at a stop. -/
def Stop.contribution (t : Stop) : Contribution := contributionOf t.calls

/-- A context with the contributions at some stops, one after the other. -/
def Context.folded (c : Context) (ts : List Stop) : Context :=
  ts.foldl (fun c t => t.contribution.on c) c

@[simp] theorem Context.folded_nil (c : Context) : c.folded [] = c := rfl

@[simp] theorem Context.folded_cons (c : Context) (t : Stop) (ts : List Stop) :
    c.folded (t :: ts) = (t.contribution.on c).folded ts := rfl

theorem Context.folded_append (c : Context) (ts us : List Stop) :
    c.folded (ts ++ us) = (c.folded ts).folded us := by
  simp [Context.folded, List.foldl_append]

section Stay

variable {settings : WorkflowSettings} {n : Node} {context : Context} {calls : List NodeEvent}
  {visit : Visit}

theorem Node.afterAll_merge (n : Node) (context : Context) (reply : ContextReply Produced) :
    context.afterAll (n.merge reply).writes = reply.contribution.on context := by
  have put (fs : Value.Fields) : context.afterAll (reply.writes ++ Write.puts fs) =
      (context.afterAll reply.writes).overlay fs := by
    rw [Context.afterAll_append, Context.afterAll_puts]
  obtain ⟨ws, f | ⟨v⟩ | ⟨fs, f⟩⟩ := reply
  · rfl
  · cases v with
    | object fs => exact put fs
    | _ => rfl
  · exact put fs

/-- Only what is null or an object lets a walk go on. -/
theorem Node.reply_of_merge_goes {reply : ContextReply Produced} {next : Next}
    (goes : (n.merge reply).next = .ok next) :
    (∃ ws, reply = ⟨ws, .ok (.whole .null)⟩) ∨
      ∃ ws fs, reply = ⟨ws, .ok (.whole (.object fs))⟩ := by
  obtain ⟨ws, f | ⟨v⟩ | ⟨fs, f⟩⟩ := reply
  · cases goes
  · cases v with
    | null => exact .inl ⟨ws, rfl⟩
    | object fs => exact .inr ⟨ws, fs, rfl⟩
    | _ => cases goes
  · cases goes

/-- What is produced lets a walk fail if there is none, if it is something else, or if it cannot be
read to its end. -/
theorem Node.reply_of_merge_fails {reply : ContextReply Produced} {f : Failure}
    (fails : (n.merge reply).next = .error f) :
    (∃ ws g, reply = ⟨ws, .error g⟩) ∨
      (∃ ws v, v ≠ .null ∧ (∀ fs, v ≠ .object fs) ∧ reply = ⟨ws, .ok (.whole v)⟩) ∨
      ∃ ws fs g, reply = ⟨ws, .ok (.broken fs g)⟩ := by
  obtain ⟨ws, g | ⟨v⟩ | ⟨fs, g⟩⟩ := reply
  · exact .inl ⟨ws, g, rfl⟩
  · cases v with
    | null | object fs => cases fails
    | _ => exact .inr (.inl ⟨ws, _, by simp, by simp, rfl⟩)
  · exact .inr (.inr ⟨ws, fs, g, rfl⟩)

/-- A visit leaves the context with the contribution in its replies. -/
theorem Node.Stay.after_eq (h : n.Stay settings context calls visit) :
    context.afterAll visit.writes = (contributionOf calls).on context := by
  cases h with
  | passed | finished | idle | unreadable => rfl
  | acted kind named reply => rcases reply with ⟨ws, f | _⟩ <;> rfl
  | decided =>
    rcases Condition.holds (n.option "condition") context with f | (_ | _) <;> rfl
  | served kind named reply => exact Node.afterAll_merge n context reply
  | transformed kind named reply => exact Node.afterAll_merge n context reply
  | messaged kind reply => rcases reply with ⟨ws, f | _⟩ <;> rfl
  | rested kind valid reply => rcases reply with f | _ <;> rfl

/-- A node that was visited contributes as its kind has it. -/
theorem Node.Stay.contributes {next : Next} (h : n.Stay settings context calls visit)
    (goes : visit.next = .ok next) : n.Contributes context calls (contributionOf calls) := by
  cases h with
  | passed kind => exact .other (by rcases kind with kind | kind <;> simp [kind]) []
  | finished kind => exact .other (by simp [kind]) []
  | idle option kind missing => exact .idle option kind missing
  | acted kind named reply =>
    obtain ⟨ws, f | _⟩ := reply
    · cases goes
    · exact .acted kind named ws
  | decided kind => exact .other (by simp [kind]) []
  | served kind named =>
    obtain ⟨ws, rfl⟩ | ⟨ws, fs, rfl⟩ := Node.reply_of_merge_goes goes
    · exact .servedNothing kind named ws
    · exact .served kind named ws fs
  | transformed kind named =>
    obtain ⟨ws, rfl⟩ | ⟨ws, fs, rfl⟩ := Node.reply_of_merge_goes goes
    · exact .transformedNothing kind named ws
    · exact .transformed kind named ws fs
  | messaged kind reply =>
    obtain ⟨ws, f | delivered⟩ := reply
    · cases goes
    · exact .messaged kind ws delivered
  | unreadable kind invalid => cases goes
  | rested kind valid reply => exact .other (by simp [kind]) _

/-- What a node leaves at which the execution fails is told by its kind as well. -/
theorem Node.Stay.leaves {f : Failure} (h : n.Stay settings context calls visit)
    (fails : visit.next = .error f) : n.Leaves context calls (contributionOf calls) := by
  cases h with
  | passed | finished | idle => cases fails
  | acted kind named reply =>
    obtain ⟨ws, g | _⟩ := reply
    · exact .acted kind ws g
    · cases fails
  | decided kind => exact .other (by simp [kind]) []
  | served kind =>
    obtain ⟨ws, g, rfl⟩ | ⟨ws, v, some, other, rfl⟩ | ⟨ws, fs, g, rfl⟩ :=
      Node.reply_of_merge_fails fails
    · exact .served kind ws g
    · show n.Leaves context _ ⟨ws, (Produced.whole v).members⟩
      rw [Produced.members_whole other]
      exact .servedOther kind ws v some other
    · exact .servedBroken kind ws fs g
  | transformed kind =>
    obtain ⟨ws, g, rfl⟩ | ⟨ws, v, some, other, rfl⟩ | ⟨ws, fs, g, rfl⟩ :=
      Node.reply_of_merge_fails fails
    · exact .transformed kind ws g
    · show n.Leaves context _ ⟨ws, (Produced.whole v).members⟩
      rw [Produced.members_whole other]
      exact .transformedOther kind ws v some other
    · exact .transformedBroken kind ws fs g
  | messaged kind reply =>
    obtain ⟨ws, g | delivered⟩ := reply
    · exact .messaged kind ws g
    · cases fails
  | unreadable kind invalid => exact .other (by simp [kind]) []
  | rested kind valid reply => exact .other (by simp [kind]) _

end Stay

theorem Stop.Genuine.after_eq {settings : WorkflowSettings} {t : Stop} (h : t.Genuine settings) :
    t.after = t.contribution.on t.before :=
  Node.Stay.after_eq h

/-! ### Restraint -/

/-- Whether a collaborator keeps to what it is asked for: only an action writes on the context by
itself, and what is produced can be read to its end. -/
def NodeEvent.IsRestrained : NodeEvent → Prop
  | ⟨.act .., _⟩ => True
  | ⟨.service .., reply⟩ => reply.writes = [] ∧ ∀ fs f, reply.result ≠ .ok (.broken fs f)
  | ⟨.transform .., reply⟩ => reply.writes = [] ∧ ∀ fs f, reply.result ≠ .ok (.broken fs f)
  | ⟨.send .., reply⟩ => reply.writes = []
  | ⟨.rest _, _⟩ => True

section Restraint

variable {n : Node} {before : Context} {calls : List NodeEvent} {k : Contribution}

/-- A visited node without an action contributes what it has produced and nothing else. -/
theorem Node.Contributes.own_eq_nil (h : n.Contributes before calls k)
    (restrained : ∀ e ∈ calls, e.IsRestrained) (inactive : n.kind ≠ .action) : k.own = [] := by
  cases h with
  | acted kind => exact absurd kind inactive
  | served | servedNothing | transformed | transformedNothing =>
    exact (restrained _ List.mem_cons_self).1
  | messaged => exact restrained _ List.mem_cons_self
  | idle | other => rfl

/-- A visited node that neither runs an action nor calls a service nor sets values contributes
nothing. -/
theorem Node.Contributes.eq_nothing (h : n.Contributes before calls k)
    (restrained : ∀ e ∈ calls, e.IsRestrained)
    (kind : n.kind ∉ [NodeKind.action, .apiCall, .transform]) : k = {} := by
  cases h with
  | acted there | served there | servedNothing there | transformed there
  | transformedNothing there => simp [there] at kind
  | messaged there ws =>
    obtain rfl : ws = [] := restrained _ List.mem_cons_self
    rfl
  | idle | other => rfl

/-- A node without an action contributes nothing when the execution fails at it. -/
theorem Node.Leaves.eq_nothing (h : n.Leaves before calls k)
    (restrained : ∀ e ∈ calls, e.IsRestrained) (inactive : n.kind ≠ .action) : k = {} := by
  cases h with
  | acted kind => exact absurd kind inactive
  | served kind ws | servedOther kind ws | transformed kind ws | transformedOther kind ws =>
    obtain rfl : ws = [] := (restrained _ List.mem_cons_self).1
    rfl
  | servedBroken kind ws fs f | transformedBroken kind ws fs f =>
    exact absurd rfl ((restrained _ List.mem_cons_self).2 fs f)
  | messaged kind ws f =>
    obtain rfl : ws = [] := restrained _ List.mem_cons_self
    rfl
  | other => rfl

end Restraint

/-! ### The context along a walk -/

namespace Workflow

variable {w : Workflow} {settings : WorkflowSettings} {visits : Nat} {n : Node}
  {context : Context} {ts : List Stop} {failing : Option Stop} {reached : WalkEnd}

namespace Itinerary

theorem contributes (h : w.Itinerary settings visits n context ts failing reached) :
    ∀ t ∈ ts, t.node.Contributes t.before t.calls t.contribution := by
  induction h with
  | exhausted => simp
  | failed => simp
  | stopped genuine goes =>
    simp only [List.mem_singleton, forall_eq]
    exact Node.Stay.contributes genuine goes
  | onward genuine goes leads rest ih =>
    simp only [List.mem_cons, forall_eq_or_imp]
    exact ⟨Node.Stay.contributes genuine goes, ih⟩

/-- The stop at which a walk fails leaves what it has written, and its failure ends the walk. -/
theorem leaves (h : w.Itinerary settings visits n context ts failing reached) :
    ∀ t ∈ failing, t.node.Leaves t.before t.calls t.contribution ∧
      ∃ f, t.visit.next = .error f ∧ reached.2 = .error f := by
  induction h with
  | exhausted => simp
  | failed genuine fails =>
    simp only [Option.mem_some_iff, forall_eq']
    exact ⟨Node.Stay.leaves genuine fails, _, fails, rfl⟩
  | stopped => simp
  | onward genuine goes leads rest ih => exact ih

/-- The context after a walk is the one before with all contributions. -/
theorem after_eq (h : w.Itinerary settings visits n context ts failing reached) :
    reached.1 = context.folded (ts ++ failing.toList) := by
  induction h with
  | exhausted => rfl
  | failed genuine fails => simp [genuine.after_eq]
  | stopped genuine goes stops => simp [genuine.after_eq]
  | onward genuine goes leads rest ih => simp [ih, genuine.after_eq]

/-- The context at a stop is the one before the walk with the contributions so far. -/
theorem before_eq (h : w.Itinerary settings visits n context ts failing reached) {t : Stop}
    {earlier later : List Stop} (split : ts ++ failing.toList = earlier ++ t :: later) :
    t.before = context.folded earlier := by
  induction h generalizing earlier with
  | exhausted => simp at split
  | failed genuine fails =>
    cases earlier <;> simp_all
  | stopped genuine goes stops =>
    cases earlier <;> simp_all
  | onward genuine goes leads rest ih =>
    cases earlier with
    | nil => simp_all
    | cons u earlier =>
      simp only [List.cons_append, List.cons.injEq] at split
      rw [Context.folded_cons, ← split.1, ← genuine.after_eq]
      exact ih split.2

end Itinerary

namespace Traversal

theorem contributes (h : w.Traversal settings context ts failing reached) :
    ∀ t ∈ ts, t.node.Contributes t.before t.calls t.contribution := by
  cases h with
  | unstarted => simp
  | walked only itinerary => exact itinerary.contributes

theorem leaves (h : w.Traversal settings context ts failing reached) :
    ∀ t ∈ failing, t.node.Leaves t.before t.calls t.contribution ∧
      ∃ f, t.visit.next = .error f ∧ reached.2 = .error f := by
  cases h with
  | unstarted => simp
  | walked only itinerary => exact itinerary.leaves

theorem after_eq (h : w.Traversal settings context ts failing reached) :
    reached.1 = context.folded (ts ++ failing.toList) := by
  cases h with
  | unstarted => rfl
  | walked only itinerary => exact itinerary.after_eq

theorem before_eq (h : w.Traversal settings context ts failing reached) {t : Stop}
    {earlier later : List Stop} (split : ts ++ failing.toList = earlier ++ t :: later) :
    t.before = context.folded earlier := by
  cases h with
  | unstarted => simp at split
  | walked only itinerary => exact itinerary.before_eq split

end Traversal

end Workflow

/-! ### Names that stay -/

/-- Whether a write removes a name. -/
def Write.isRemoval : Write → Bool
  | put .. => false
  | remove _ => true

/-- Whether the reply to a node is that of a collaborator that removes a name. -/
def NodeEvent.removes : NodeEvent → Bool
  | ⟨.act .., reply⟩ => reply.writes.any Write.isRemoval
  | ⟨.service .., reply⟩ => reply.writes.any Write.isRemoval
  | ⟨.transform .., reply⟩ => reply.writes.any Write.isRemoval
  | ⟨.send .., reply⟩ => reply.writes.any Write.isRemoval
  | ⟨.rest _, _⟩ => false

/-- Whether the reply to a node is that of an action. -/
def NodeEvent.isAct : NodeEvent → Bool
  | ⟨.act .., _⟩ => true
  | _ => false

/-- Under restraint only an action removes a name. -/
theorem NodeEvent.IsRestrained.removes_eq_false {e : NodeEvent} (h : e.IsRestrained)
    (keeps : e.isAct = true → e.removes = false) : e.removes = false := by
  obtain ⟨c, reply⟩ := e
  cases c with
  | act => exact keeps rfl
  | service | transform =>
    have unwritten : reply.writes = [] := h.1
    simp [removes, unwritten]
  | send =>
    have unwritten : reply.writes = [] := h
    simp [removes, unwritten]
  | rest => rfl

/-- Whether no name disappears on the way over some stops or at its end. -/
def Context.Lasts (c : Context) (ts : List Stop) : Prop :=
  ∀ earlier between later, ts = earlier ++ between ++ later →
    ∀ name, (c.folded earlier).has name = true → (c.folded (earlier ++ between)).has name = true

namespace Context

variable {c : Context} {name : Name}

theorem has_overlay (fs : Value.Fields) (h : c.has name = true) :
    (c.overlay fs).has name = true := by
  rw [Catalog.has, Catalog.get?_overlay, Option.isSome_or]
  exact Bool.or_eq_true_iff.mpr (.inr h)

theorem has_afterAll {ws : List Write} (keeps : ws.any Write.isRemoval = false)
    (h : c.has name = true) : (c.afterAll ws).has name = true := by
  induction ws generalizing c with
  | nil => exact h
  | cons w ws ih =>
    rw [List.any_cons, Bool.or_eq_false_iff] at keeps
    refine ih keeps.2 ?_
    cases w with
    | put other value =>
      rw [after, Catalog.has, Catalog.get?_put]
      split
      · rfl
      · exact h
    | remove other => cases keeps.1

/-- What is contributed without a removal leaves every name there is. -/
theorem has_on {calls : List NodeEvent} (keeps : ∀ e ∈ calls, e.removes = false)
    (h : c.has name = true) : ((contributionOf calls).on c).has name = true := by
  refine has_overlay _ (has_afterAll ?_ h)
  unfold contributionOf
  split
  iterate 4 exact keeps _ List.mem_cons_self
  rfl

/-- Where no collaborator removes a name, no name disappears. -/
theorem has_folded {ts : List Stop} (keeps : ∀ t ∈ ts, ∀ e ∈ t.calls, e.removes = false)
    (h : c.has name = true) : (c.folded ts).has name = true := by
  induction ts generalizing c with
  | nil => exact h
  | cons t ts ih =>
    refine ih (fun u mem => keeps u (List.mem_cons_of_mem t mem)) ?_
    exact has_on (keeps t List.mem_cons_self) h

theorem lasts {ts : List Stop} (keeps : ∀ t ∈ ts, ∀ e ∈ t.calls, e.removes = false) :
    c.Lasts ts := by
  intro earlier between later split name there
  rw [folded_append]
  refine has_folded (fun t mem => keeps t ?_) there
  simp [split, mem]

end Context

/-! ### The context of an execution -/

/-- The context that an execution starts with: the values of the workflow, overlaid with those that
are given. -/
def Workflow.seed (w : Workflow) (given : Context) : Context := w.presets.overlay given

/-- Whether the context of an execution is what the nodes of the workflow have contributed, in terms
of the calls that were made: given the stops at which it was, the one at which it failed, if any,
what the walk has come to, and the result. -/
structure Workflow.Accrued (now : Timestamp) (settings : WorkflowSettings) (w : Workflow)
    (asked : Value) (execution : String) (given : Context) (ts : List Stop) (failing : Option Stop)
    (reached : WalkEnd) (es : List EngineEvent) (result : ExecutionResult) : Prop where
  /-- The stops are those of a walk over the nodes of the workflow, from its start node on. -/
  traversal : w.Traversal settings (w.seed given) ts failing reached
  /-- The nodes that were announced as visited are those of the stops. -/
  announced : published es = [⟨execution, asked, now, .started w.nodes.length⟩] ++
    ts.map (fun t => ⟨execution, .text w.id, now, t.happening⟩) ++
    [⟨execution, asked, now, .finished (.ofResult reached.2)⟩]
  /-- The calls of nodes are those at the stops. -/
  called : answered es = (ts ++ failing.toList).flatMap Stop.calls
  /-- What the walk has come to is recorded, and nothing else is. -/
  kept : kept es = [recordOf now asked execution reached]
  /-- Each visited node contributes as its kind has it. -/
  contributes : ∀ t ∈ ts, t.node.Contributes t.before t.calls t.contribution
  /-- So does a node at which the execution failed, and its failure ends the execution. -/
  leaves : ∀ t ∈ failing, t.node.Leaves t.before t.calls t.contribution ∧
    ∃ f, t.visit.next = .error f ∧ reached.2 = .error f
  /-- Each node was visited in the context with the contributions before it. -/
  before : ∀ earlier t later, ts ++ failing.toList = earlier ++ t :: later →
    t.before = (w.seed given).folded earlier
  /-- The record holds the context that the execution started with, with all contributions. -/
  recorded : (recordOf now asked execution reached).context =
    (w.seed given).folded (ts ++ failing.toList)
  /-- What the starter gets on success is the context of the record, with the contributions of the
  visited nodes and no other. -/
  returned : ∀ context ∈ result.context?,
    context = (recordOf now asked execution reached).context ∧ failing = none
  /-- Where no collaborator removes a name, no name disappears on the way or at the end. -/
  lasting : (∀ e ∈ answered es, e.removes = false) → (w.seed given).Lasts (ts ++ failing.toList)

section Accrued

variable {σ : Type} (respond : Program.Responder EngineCall EngineCall.Reply σ) (now : Timestamp)
  (settings : WorkflowSettings) (w : Workflow) (asked : Value) (execution : String)
  (given : Context) (s : σ)

/-- Whatever the collaborators of the engine and its nodes reply, the context of an execution is
what its nodes have contributed. -/
theorem Workflow.exists_accrued :
    let program := w.execute now settings asked execution given
    ∃ ts failing reached, w.Accrued now settings asked execution given ts failing reached
      (program.trace respond s) (program.run respond s).1 := by
  intro program
  obtain ⟨ms, run, traced⟩ := runs_run respond program s
  obtain ⟨ts, failing, reached, traversal, told, called, keeps, result⟩ := runs_execute run
  rw [traced] at told called keeps
  refine ⟨ts, failing, reached, traversal, told, called, keeps, traversal.contributes,
    traversal.leaves, fun _ _ _ split => traversal.before_eq split, traversal.after_eq, ?_, ?_⟩
  · intro context returned
    obtain ⟨reachedContext, f | outcome⟩ := reached
    · simp [result, ExecutionResult.ofConclusion, Conclusion.ofResult,
        ExecutionResult.context?] at returned
    · obtain rfl : reachedContext = context := by
        simpa [result, ExecutionResult.ofConclusion, Conclusion.ofResult,
          ExecutionResult.context?] using returned
      refine ⟨rfl, Option.eq_none_iff_forall_not_mem.mpr fun t mem => ?_⟩
      -- A stop at which the walk failed would have ended it with a failure.
      obtain ⟨-, f, -, ended⟩ := traversal.leaves t mem
      cases ended
  · intro keeps
    rw [called] at keeps
    exact Context.lasts fun t mem e there => keeps e (List.mem_flatMap.mpr ⟨t, mem, there⟩)

/-- **The context of an execution is what its nodes have contributed.** This holds whatever the
collaborators of the engine and its nodes reply. Where those of nodes keep to what they are asked
for, a service and a transform contribute what they have produced and nothing else, an action its
own writes, and every other node nothing; a node at which the execution fails contributes nothing
unless it is an action; and no name disappears unless an action removes one. -/
theorem execute_accrued :
    let program := w.execute now settings asked execution given
    let es := program.trace respond s
    ∃ ts failing reached,
      w.Accrued now settings asked execution given ts failing reached es
        (program.run respond s).1 ∧
      ((∀ e ∈ answered es, e.IsRestrained) →
        (∀ t ∈ ts, t.node.kind ≠ .action → t.contribution.own = []) ∧
        (∀ t ∈ ts, t.node.kind ∉ [NodeKind.action, .apiCall, .transform] →
          t.contribution = {}) ∧
        (∀ t ∈ failing, t.node.kind ≠ .action → t.contribution = {}) ∧
        ((∀ e ∈ answered es, e.isAct = true → e.removes = false) →
          (w.seed given).Lasts (ts ++ failing.toList))) := by
  intro program es
  obtain ⟨ts, failing, reached, accrued⟩ :=
    w.exists_accrued respond now settings asked execution given s
  refine ⟨ts, failing, reached, accrued, fun restrained => ?_⟩
  have restrainedAt : ∀ t ∈ ts ++ failing.toList, ∀ e ∈ t.calls, e.IsRestrained := by
    intro t mem e there
    refine restrained e ?_
    rw [accrued.called]
    exact List.mem_flatMap.mpr ⟨t, mem, there⟩
  have visited {t : Stop} (mem : t ∈ ts) := restrainedAt t (List.mem_append_left _ mem)
  refine ⟨fun t mem => (accrued.contributes t mem).own_eq_nil (visited mem),
    fun t mem => (accrued.contributes t mem).eq_nothing (visited mem), fun t mem => ?_,
    fun keeps => accrued.lasting fun e mem => ?_⟩
  · refine (accrued.leaves t mem).1.eq_nothing (restrainedAt t ?_)
    exact List.mem_append_right _ (Option.mem_toList.mpr mem)
  · exact (restrained e mem).removes_eq_false (keeps e mem)

end Accrued

/-- A workflow that looks a place up, copies it and takes note of it. -/
def errand : Workflow where
  id := "wf-1"
  name := "Errand"
  description := none
  nodes := [
    { id := "start", kind := .start, label := "", config := [],
      connections := { next := some "look" }, rawKind := none },
    { id := "look", kind := .apiCall, label := "", config := [("endpoint", .text "/places")],
      connections := { next := some "copy" }, rawKind := none },
    { id := "copy", kind := .transform, label := "",
      config := [("transform", .object [("place", .text "$city")])],
      connections := { next := some "mail" }, rawKind := none },
    { id := "mail", kind := .email, label := "", config := [],
      connections := { next := some "note" }, rawKind := none },
    { id := "note", kind := .action, label := "", config := [("action", .text "note")],
      connections := {}, rawKind := none }]
  presets := []
  trigger := none
  createdAt := none
  updatedAt := none

/-- Collaborators that keep to what they are asked for, and an action that fails after a write. A
sender writes what it is told to. -/
def obliging (ws : List Write) : Program.Responder EngineCall EngineCall.Reply Unit
  | .node (.act ..), s =>
    ({ writes := [.put "seen" (.bool true)],
       result := .error (.raised .runtime (.text "busy")) }, s)
  | .node (.service ..), s => ({ result := .ok (.whole (.object [("city", .text "Delft")])) }, s)
  | .node (.transform spec context), s =>
    ({ result := (Transform.apply spec context).map fun fs => .whole (.object fs) }, s)
  | .node (.send ..), s => ({ writes := ws, result := .ok true }, s)
  | .node (.rest _), s => (.ok (), s)
  | .workflow _, s | .form _, s | .endpoint _, s => (.ok none, s)
  | .issue kind, s => (kind, s)
  | .keep _, s | .publish _, s => (.ok (), s)

theorem isRestrained_obliging {α : Type} (p : EngineProgram α) :
    ∀ e ∈ answered (p.trace (obliging []) ()), e.IsRestrained := by
  intro e mem
  obtain ⟨⟨⟩, replied⟩ := answered_allowed mem
  obtain ⟨c, reply⟩ := e
  obtain rfl : (obliging [] (.node c) ()).1 = reply := replied
  cases c with
  | act | rest => trivial
  | service => exact ⟨rfl, nofun⟩
  | transform spec context =>
    refine ⟨rfl, fun fs f broken => ?_⟩
    have whole : (Transform.apply spec context).map (fun fs => Produced.whole (.object fs)) =
        .ok (.broken fs f) := broken
    cases applied : Transform.apply spec context <;> rw [applied] at whole <;> cases whole
  | send => rfl

/-- Everything is contributed before the action, and the action contributes although it fails. -/
theorem execute_accrued_sample :
    let given : Context := [("id", .int 7)]
    let left : Context := [("id", .int 7), ("city", .text "Delft"), ("place", .text "Delft"),
      ("seen", .bool true)]
    let program := errand.execute default default (.text "wf-1") "exec" given
    let es := program.trace (obliging []) ()
    (∀ e ∈ answered es, e.IsRestrained) ∧
      ∃ ts failing reached,
        errand.Accrued default default (.text "wf-1") "exec" given ts failing reached es
          (program.run (obliging []) ()).1 ∧
        ts.length = 4 ∧ (∀ t ∈ ts, t.node.kind ≠ .action → t.contribution.own = []) ∧
        reached.1 = left := by
  intro given left program es
  have restrained := isRestrained_obliging program
  obtain ⟨ts, failing, reached, accrued, under⟩ :=
    execute_accrued (obliging []) default default errand (.text "wf-1") "exec" given ()
  refine ⟨restrained, ts, failing, reached, accrued, ?_, (under restrained).1, ?_⟩
  · have events : (published es).length = 6 := rfl
    have counted := congrArg List.length accrued.announced
    simp only [List.length_append, List.length_map, List.length_singleton] at counted
    have matched := events.symm.trans counted
    omega
  · have records : kept es = [Workflow.recordOf default (.text "wf-1") "exec"
      (left, .error (.raised .runtime (.text "busy")))] := rfl
    have record := List.singleton_inj.mp (accrued.kept.symm.trans records)
    exact congrArg ExecutionRecord.context record

/-- A sender that writes on the context is why restraint is asked for: the message contributes, and
so it is found in the record. -/
example :
    let program := errand.execute default default (.text "wf-1") "exec" []
    let es := program.trace (obliging [.put "mailed" (.bool true)]) ()
    (kept es).map (·.context.has "mailed") = [true] := rfl

end Fulfilment
