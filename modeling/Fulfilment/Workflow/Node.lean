import Fulfilment.Failure
import Fulfilment.Schema.Object

/-!
# Nodes of a workflow

A node has a kind, which says what happens when it is visited, options for it, and connections to
the nodes that may come next. A document may name a kind that is not known; such a node has the
kind `unknown` and keeps the word.

## Main definitions

* `NodeKind` - the kinds of node
* `Connections` - the nodes that may come next
* `Node` - a node
* `Node.check`, `Node.document` - reading a node from a document and writing it
-/

namespace Fulfilment

/-- What happens when a node is visited. -/
inductive NodeKind where
  /-- The walk begins here. -/
  | start
  /-- The walk is complete. -/
  | finish
  /-- A named action is run. -/
  | action
  /-- A condition decides where to go. -/
  | condition
  /-- A service is called. -/
  | apiCall
  /-- An email is sent. -/
  | email
  /-- A notification is sent. -/
  | notification
  /-- The walk rests for a while. -/
  | delay
  /-- Values of the context are set. -/
  | transform
  /-- Nothing happens. -/
  | unknown
deriving DecidableEq, Repr, Inhabited

namespace NodeKind

/-- The words for the kinds, in their order. -/
def words : List (String × NodeKind) :=
  [("start", start), ("end", finish), ("action", action), ("condition", condition),
    ("api_call", apiCall), ("email", email), ("notification", notification), ("delay", delay),
    ("transform", transform), ("unknown", unknown)]

/-- The word for a kind. -/
def word : NodeKind → String
  | start => "start"
  | finish => "end"
  | action => "action"
  | condition => "condition"
  | apiCall => "api_call"
  | email => "email"
  | notification => "notification"
  | delay => "delay"
  | transform => "transform"
  | unknown => "unknown"

/-- The kind that a word names. -/
def ofWord? (s : String) : Option NodeKind := Catalog.get? words s

/-- The kinds among all that are not among those given, if there are any, as a failure. When no
kinds are given, all kinds are. -/
def checkCovered (handled : List NodeKind) : Except Failure Unit :=
  if handled.isEmpty then .ok ()
  else
    match words.filter fun w => !handled.contains w.2 with
    | [] => .ok ()
    | missing => .error (.unhandledKinds (missing.map (·.1)))

@[simp] theorem ofWord?_word (k : NodeKind) : ofWord? k.word = some k := by
  cases k <;> rfl

end NodeKind

/-- The nodes that may come next. -/
structure Connections where
  /-- The next node. -/
  next : Option String := none
  /-- The next node after a condition that holds. -/
  onTrue : Option String := none
  /-- The next node after a condition that does not hold. -/
  onFalse : Option String := none
deriving DecidableEq, Repr, Inhabited

/-- The connections that the members of an object describe. -/
def Connections.ofFields (fs : Value.Fields) : Schema.Checked Connections :=
  Connections.mk <$> Schema.perhaps fs "next" Schema.text
    <*> Schema.perhaps fs ⟨"onTrue", "on_true"⟩ Schema.text
    <*> Schema.perhaps fs ⟨"onFalse", "on_false"⟩ Schema.text

/-- The connections that a value describes. -/
def Connections.check : Value → Schema.Checked Connections :=
  Schema.model "NodeConnections" Connections.ofFields

/-- The connections as a document. -/
def Connections.document (c : Connections) : Value :=
  .object [("next", .ofText? c.next), ("on_true", .ofText? c.onTrue),
    ("on_false", .ofText? c.onFalse)]

/-- A node of a workflow. -/
structure Node where
  /-- The name of the node in its workflow. -/
  id : String
  /-- What happens when the node is visited. -/
  kind : NodeKind
  /-- What the node is called in displays. -/
  label : String
  /-- The options of the node. -/
  config : Value.Fields
  /-- The nodes that may come next. -/
  connections : Connections
  /-- The word for the kind, where the kind is unknown. -/
  rawKind : Option String
deriving Repr, Inhabited

namespace Node

/-- The members of a node with the word for an unknown kind put aside. -/
def putKindAside (fs : Value.Fields) : Value.Fields :=
  match fs.get? "type" with
  | some (.text s) =>
    match NodeKind.ofWord? s with
    -- A word for a known kind is left where it is.
    | some _ => fs
    | none => (fs.put "type" (.text NodeKind.unknown.word)).put "raw_type" (.text s)
  | _ => fs

/-- The members with an empty object where the one of the given name is null or absent. -/
def fillIn (name : String) (fs : Value.Fields) : Value.Fields :=
  match fs.get? name with
  | none | some .null => fs.put name (.object [])
  | some _ => fs

/-- The node that the members of an object describe. -/
def ofFields (given : Value.Fields) : Schema.Checked Node :=
  let fs := fillIn "connections" (fillIn "config" (putKindAside given))
  Node.mk <$> Schema.required fs "id" Schema.nonEmptyText
    <*> Schema.required fs "type" (Schema.member NodeKind.words)
    <*> Schema.optional fs "label" "" Schema.text
    <*> Schema.optional fs "config" [] Schema.object
    <*> Schema.optional fs "connections" {} Connections.check
    <*> Schema.perhaps fs "raw_type" Schema.text

/-- The node that a value describes. -/
def check : Value → Schema.Checked Node := Schema.model "WorkflowNode" ofFields

/-- The node as a document. -/
def document (n : Node) : Value :=
  .object [("id", .text n.id), ("type", .text n.kind.word), ("label", .text n.label),
    ("config", .object n.config), ("connections", n.connections.document),
    ("raw_type", .ofText? n.rawKind)]

end Node

end Fulfilment
