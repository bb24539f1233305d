import Fulfilment.Execution.Call
import Fulfilment.Settings.Sections

/-!
# Visiting a node

What happens when a node is visited: it may call on its collaborators, it may write on the context,
and it says where the walk goes on. What its collaborators write on the context by themselves stays,
also when they fail after it. What a service or a transform produces has to be an object, or null
for nothing; its members are written one after the other, as far as they can be read.

## Main definitions

* `Next` - where the walk goes on
* `Visit` - what a visit leaves behind
* `Node.visit` - visiting a node

## Main results

* `Node.next_afterCall`, `Node.next_merge`, `Node.next_afterCondition` - where the walk goes on
  after a visit that did not fail
-/

namespace Fulfilment

/-- Where the walk goes on after a node. -/
inductive Next where
  /-- Nowhere, because the walk is complete. -/
  | complete
  /-- At the node of a name, if there is a name. -/
  | goOn (target : Option String)
deriving DecidableEq, Repr, Inhabited

/-- The name of the node at which the walk goes on. -/
def Next.target? : Next → Option String
  | complete => none
  | goOn target => target

/-- What a visit leaves behind: its writes, and where the walk goes on unless the visit failed. -/
structure Visit where
  /-- The writes. -/
  writes : List Write := []
  /-- Where the walk goes on. -/
  next : Except Failure Next
deriving Inhabited

/-- The action that a value names: an object names it by its type and is handed to it; any other
value is the name itself. -/
def actionOf (v : Value) : String × Value.Fields :=
  match v with
  | .object fs => (((Catalog.get? fs "type").getD .null).plain, fs)
  | v => (v.plain, [])

namespace Node

/-- An option of a node, which is null when it is absent. -/
def option (n : Node) (name : String) : Value := (n.config.get? name).getD .null

/-- The visit that writes nothing and goes on. -/
def pass (n : Node) : Visit := { next := .ok (.goOn n.connections.next) }

/-- The visit after a collaborator whose result changes nothing, such as whether a message was
delivered. What the collaborator has written stays, also when it fails. -/
def afterCall {α : Type} (n : Node) (r : ContextReply α) : Visit :=
  match r.result with
  | .error f => { writes := r.writes, next := .error f }
  | .ok _ => { n.pass with writes := r.writes }

/-- The visit after a collaborator that produces something, which is written after what the
collaborator has written by itself. -/
def merge (n : Node) (r : ContextReply Produced) : Visit :=
  match r.result with
  | .error f => { writes := r.writes, next := .error f }
  | .ok (.whole .null) => { n.pass with writes := r.writes }
  | .ok (.whole (.object fs)) => { n.pass with writes := r.writes ++ Write.puts fs }
  | .ok (.whole v) =>
    { writes := r.writes, next := .error (.notAnObject n.id n.kind.word v.kindName) }
  -- The members before the failure have been written when it shows.
  | .ok (.broken fs f) => { writes := r.writes ++ Write.puts fs, next := .error f }

/-- The visit after a condition. -/
def afterCondition (n : Node) : Except Failure Bool → Visit
  | .error f => { next := .error f }
  | .ok true => { next := .ok (.goOn n.connections.onTrue) }
  | .ok false => { next := .ok (.goOn n.connections.onFalse) }

/-- The milliseconds that a delay gives. -/
def milliseconds (n : Node) (delay : Value) : Except Failure Binary64 :=
  let invalid := Failure.invalidDelay n.id delay.literal
  match delay with
  | .bool b => .ok (.ofInt (if b then 1 else 0))
  | .int i =>
    match Binary64.ofInt? i with
    | some x => .ok x
    | none => .error .integerTooLarge
  | .real x => .ok x
  | .text s =>
    match Binary64.ofText? s with
    | some x => .ok x
    | none => .error invalid
  | _ => .error invalid

/-- The seconds of a delay. Without an option the delay is that of the settings, and a negative one
counts as none. -/
def delay (settings : WorkflowSettings) (n : Node) : Except Failure Binary64 :=
  let given :=
    -- Only an absent delay is replaced; a delay of nothing is one.
    match n.option "delay" with
    | .null => .int settings.defaultDelay
    | v => v
  (n.milliseconds given).map fun x => (x.divNat 1000).clampToZero

/-- Visits a node in a context. -/
def visit (settings : WorkflowSettings) (n : Node) (context : Context) : NodeProgram Visit :=
  match n.kind with
  | .start | .unknown => .done n.pass
  | .finish => .done { next := .ok .complete }
  | .action =>
    let action := n.option "action"
    if action.truthy then
      .call (.act (actionOf action).1 (actionOf action).2 context) fun r => .done (n.afterCall r)
    else .done n.pass
  | .condition => .done (n.afterCondition (Condition.holds (n.option "condition") context))
  | .apiCall =>
    let endpoint := n.option "endpoint"
    if endpoint.truthy then
      .call (.service endpoint context n.config) fun r => .done (n.merge r)
    else .done n.pass
  | .transform =>
    let spec := n.option "transform"
    if spec.truthy then .call (.transform spec context) fun r => .done (n.merge r)
    else .done n.pass
  | .email | .notification =>
    .call (.send n.kind.word n.config context) fun r => .done (n.afterCall r)
  | .delay =>
    match n.delay settings with
    | .error f => .done { next := .error f }
    | .ok seconds => .call (.rest seconds) fun r => .done (n.afterCall { result := r })

@[simp] theorem writes_pass (n : Node) : n.pass.writes = [] := rfl

@[simp] theorem next_pass (n : Node) : n.pass.next = .ok (.goOn n.connections.next) := rfl

section Next

variable {n : Node} {next : Next}

theorem next_afterCall {α : Type} {reply : ContextReply α}
    (goes : (n.afterCall reply).next = .ok next) : next = .goOn n.connections.next := by
  unfold afterCall at goes
  split at goes
  · cases goes
  · exact (Except.ok.inj goes).symm

theorem next_merge {reply : ContextReply Produced} (goes : (n.merge reply).next = .ok next) :
    next = .goOn n.connections.next := by
  unfold merge at goes
  split at goes
  · cases goes
  · exact (Except.ok.inj goes).symm
  · exact (Except.ok.inj goes).symm
  · cases goes
  · cases goes

theorem next_afterCondition {holds : Except Failure Bool}
    (goes : (n.afterCondition holds).next = .ok next) :
    next = .goOn n.connections.onTrue ∨ next = .goOn n.connections.onFalse := by
  rcases holds with f | (_ | _)
  · cases goes
  · exact .inr (Except.ok.inj goes).symm
  · exact .inl (Except.ok.inj goes).symm

end Next

end Node

end Fulfilment
