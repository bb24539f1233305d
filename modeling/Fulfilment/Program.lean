/-!
# Programs that call on collaborators

A program computes a result and may call on collaborators on the way: it names a call and goes on
with whatever is replied. What the collaborators reply is left open, so one program can be run
against any of them, and statements about a program can range over all of them.

## Main definitions

* `Program` - programs with calls of a given kind
* `Program.bind`, `Program.map` - one program after another
* `Program.run` - the result of a program when a responder with a state replies
* `Program.trace` - the calls of a program with their replies

## Main results

* `Program.bind_assoc`, `Program.bind_done` - the laws of sequencing
* `Program.run_bind`, `Program.trace_bind` - running one program after another
* `Program.run_still` - a program that only makes calls that change nothing
-/

namespace Fulfilment

/-- A program whose calls `c : Call` are replied to with a `Reply c`. -/
inductive Program (Call : Type) (Reply : Call → Type) (α : Type) where
  /-- The program is done and has a result. -/
  | done (result : α)
  /-- The program makes a call and goes on with the reply. -/
  | call (c : Call) (next : Reply c → Program Call Reply α)

namespace Program

variable {Call : Type} {Reply : Call → Type} {α β γ σ : Type}

/-- Runs `f` on the result of a program. -/
def bind : Program Call Reply α → (α → Program Call Reply β) → Program Call Reply β
  | done a, f => f a
  | call c next, f => call c fun r => bind (next r) f

/-- Applies a function to the result of a program. -/
def map (f : α → β) (p : Program Call Reply α) : Program Call Reply β := p.bind fun a => done (f a)

instance : Monad (Program Call Reply) where
  pure := done
  bind := bind

/-- The program that makes one call and results in the reply. -/
def ask (c : Call) : Program Call Reply (Reply c) := call c done

/-- What replies to calls, out of a state that a call may change. -/
abbrev Responder (Call : Type) (Reply : Call → Type) (σ : Type) :=
  (c : Call) → σ → Reply c × σ

/-- The result of a program, and the state after it. -/
def run (respond : Responder Call Reply σ) : Program Call Reply α → σ → α × σ
  | done a, s => (a, s)
  | call c next, s => run respond (next (respond c s).1) (respond c s).2

/-- The calls that a program makes, each with its reply. -/
def trace (respond : Responder Call Reply σ) :
    Program Call Reply α → σ → List ((c : Call) × Reply c)
  | done _, _ => []
  | call c next, s => ⟨c, (respond c s).1⟩ :: trace respond (next (respond c s).1) (respond c s).2

@[simp] theorem bind_done (a : α) (f : α → Program Call Reply β) : (done a).bind f = f a := rfl

@[simp] theorem bind_call (c : Call) (next : Reply c → Program Call Reply α)
    (f : α → Program Call Reply β) : (call c next).bind f = call c fun r => (next r).bind f := rfl

@[simp] theorem bind_done_right (p : Program Call Reply α) : p.bind done = p := by
  induction p with
  | done a => rfl
  | call c next ih => simp [bind, ih]

theorem bind_assoc (p : Program Call Reply α) (f : α → Program Call Reply β)
    (g : β → Program Call Reply γ) : (p.bind f).bind g = p.bind fun a => (f a).bind g := by
  induction p with
  | done a => rfl
  | call c next ih => simp [bind, ih]

instance : LawfulMonad (Program Call Reply) :=
  LawfulMonad.mk' _ (fun p => bind_done_right p) (fun _ _ => rfl) (fun p f g => bind_assoc p f g)

@[simp] theorem bind_eq (p : Program Call Reply α) (f : α → Program Call Reply β) :
    p >>= f = p.bind f := rfl

@[simp] theorem pure_eq (a : α) : (pure a : Program Call Reply α) = done a := rfl

@[simp] theorem run_done (respond : Responder Call Reply σ) (a : α) (s : σ) :
    run respond (done a) s = (a, s) := rfl

theorem run_call (respond : Responder Call Reply σ) (c : Call)
    (next : Reply c → Program Call Reply α) (s : σ) :
    run respond (call c next) s = run respond (next (respond c s).1) (respond c s).2 := rfl

theorem run_bind (respond : Responder Call Reply σ) (p : Program Call Reply α)
    (f : α → Program Call Reply β) (s : σ) :
    run respond (p.bind f) s = run respond (f (run respond p s).1) (run respond p s).2 := by
  induction p generalizing s with
  | done a => rfl
  | call c next ih => simp [bind, run, ih]

theorem trace_bind (respond : Responder Call Reply σ) (p : Program Call Reply α)
    (f : α → Program Call Reply β) (s : σ) :
    trace respond (p.bind f) s =
      trace respond p s ++ trace respond (f (run respond p s).1) (run respond p s).2 := by
  induction p generalizing s with
  | done a => rfl
  | call c next ih => simp [bind, trace, run, ih]

theorem run_map (respond : Responder Call Reply σ) (f : α → β) (p : Program Call Reply α) (s : σ) :
    run respond (p.map f) s = (f (run respond p s).1, (run respond p s).2) :=
  run_bind respond p _ s

theorem trace_map (respond : Responder Call Reply σ) (f : α → β) (p : Program Call Reply α)
    (s : σ) : trace respond (p.map f) s = trace respond p s := by
  rw [map, trace_bind]
  exact List.append_nil _

/-- A program whose calls leave every state as it is does so itself. -/
theorem run_still {respond : Responder Call Reply σ} {p : Program Call Reply α} {s : σ}
    (still : ∀ e ∈ trace respond p s, ∀ t, (respond e.1 t).2 = t) : (run respond p s).2 = s := by
  induction p generalizing s with
  | done a => rfl
  | call c next ih =>
    have first : (respond c s).2 = s := still ⟨c, (respond c s).1⟩ List.mem_cons_self s
    have rest := ih (respond c s).1 fun e mem => still e (List.mem_cons_of_mem _ mem)
    exact rest.trans first

end Program

end Fulfilment
