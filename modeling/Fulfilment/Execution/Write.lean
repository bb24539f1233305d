import Fulfilment.Workflow.Transform

/-!
# Writes on a context

What happens to the context of an execution is a list of writes: a value is put under a name, or a
name is removed.

## Main definitions

* `Write` - a write
* `Context.after`, `Context.afterAll` - the context after one write and after several
* `Write.puts` - the writes that put the members of an object

## Main results

* `Context.afterAll_append` - writes in two parts
* `Context.afterAll_puts` - putting the members of an object is an overlay
-/

namespace Fulfilment

/-- A write on a context. -/
inductive Write where
  /-- Puts a value under a name. -/
  | put (name : Name) (value : Value)
  /-- Removes a name. -/
  | remove (name : Name)
deriving Repr, Inhabited

/-- The writes that put the members of an object. -/
def Write.puts (fs : Value.Fields) : List Write := fs.map fun e => .put e.1 e.2

namespace Context

/-- The context after a write. -/
def after (c : Context) : Write → Context
  | .put name value => c.put name value
  | .remove name => Catalog.remove c name

/-- The context after writes, one after the other. -/
def afterAll (c : Context) (ws : List Write) : Context := ws.foldl after c

@[simp] theorem afterAll_nil (c : Context) : c.afterAll [] = c := rfl

@[simp] theorem afterAll_cons (c : Context) (w : Write) (ws : List Write) :
    c.afterAll (w :: ws) = (c.after w).afterAll ws := rfl

theorem afterAll_append (c : Context) (ws us : List Write) :
    c.afterAll (ws ++ us) = (c.afterAll ws).afterAll us := by
  simp [afterAll, List.foldl_append]

theorem afterAll_puts (c : Context) (fs : Value.Fields) :
    c.afterAll (Write.puts fs) = c.overlay fs := by
  induction fs generalizing c with
  | nil => rfl
  | cons e rest ih => exact ih (c.put e.1 e.2)

end Context

end Fulfilment
