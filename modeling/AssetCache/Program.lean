/-!
# Programs over an interface

An operation of the service runs in steps, between which others may run.  `Program` says what those
steps are: each is a call of an interface, and what follows depends on its answer.  A program is run
by a handler of the calls (`run`), is carried to another interface by an implementation of the calls
(`expand`), and can be stopped between two calls (`advance`).

Results: 1. running and expanding follow the sequence of two programs (`run_bind`, `expand_bind`);
2. to run an expanded program is to run it with the implementation as its handler (`run_expand`).
-/

namespace AssetCache

/-- Calls, and the type of the answer to each. -/
structure Interface where
  Call : Type
  Answer : Call → Type

/-- Steps that lead to a result. -/
inductive Program (I : Interface) (α : Type) where
  /-- No step: this is the result. -/
  | done (result : α)
  /-- One call, and what follows its answer. -/
  | step (call : I.Call) (next : I.Answer call → Program I α)

namespace Program

variable {I J : Interface} {α β γ σ : Type}

/-- One program after another. -/
def bind : Program I α → (α → Program I β) → Program I β
  | done a, f => f a
  | step call next, f => step call fun answer => (next answer).bind f

instance : Monad (Program I) where
  pure := done
  bind := bind

def call (c : I.Call) : Program I (I.Answer c) := step c done

def run (handle : (c : I.Call) → σ → I.Answer c × σ) : Program I α → σ → α × σ
  | done a, s => (a, s)
  | step c next, s => (next (handle c s).1).run handle (handle c s).2

/-- Replace each call by a program. -/
def expand (implement : (c : I.Call) → Program J (I.Answer c)) : Program I α → Program J α
  | done a => done a
  | step c next => (implement c).bind fun answer => (next answer).expand implement

/-- Run up to the first call that is to wait. -/
def advance (handle : (c : I.Call) → σ → I.Answer c × σ) (waits : I.Call → Bool) :
    Program I α → σ → Program I α × σ
  | done a, s => (done a, s)
  | step c next, s =>
    if waits c then (step c next, s)
    else (next (handle c s).1).advance handle waits (handle c s).2

@[simp] theorem pure_eq (a : α) : (pure a : Program I α) = done a := rfl

@[simp] theorem bind_eq (p : Program I α) (f : α → Program I β) : p >>= f = p.bind f := rfl

@[simp] theorem done_bind (a : α) (f : α → Program I β) : (done a).bind f = f a := rfl

@[simp] theorem step_bind (c : I.Call) (next : I.Answer c → Program I α) (f : α → Program I β) :
    (step c next).bind f = step c fun answer => (next answer).bind f := rfl

@[simp] theorem bind_done (p : Program I α) : p.bind done = p := by
  induction p with
  | done a => rfl
  | step c next ih => simp [ih]

theorem bind_assoc (p : Program I α) (f : α → Program I β) (g : β → Program I γ) :
    (p.bind f).bind g = p.bind fun a => (f a).bind g := by
  induction p with
  | done a => rfl
  | step c next ih => simp [ih]

@[simp] theorem run_done (handle : (c : I.Call) → σ → I.Answer c × σ) (a : α) (s : σ) :
    (done a : Program I α).run handle s = (a, s) := rfl

@[simp] theorem run_step (handle : (c : I.Call) → σ → I.Answer c × σ) (c : I.Call)
    (next : I.Answer c → Program I α) (s : σ) :
    (step c next).run handle s = (next (handle c s).1).run handle (handle c s).2 := rfl

theorem run_bind (handle : (c : I.Call) → σ → I.Answer c × σ) (p : Program I α)
    (f : α → Program I β) (s : σ) :
    (p.bind f).run handle s = (f (p.run handle s).1).run handle (p.run handle s).2 := by
  induction p generalizing s with
  | done a => rfl
  | step c next ih => simp [ih]

theorem expand_bind (implement : (c : I.Call) → Program J (I.Answer c)) (p : Program I α)
    (f : α → Program I β) :
    (p.bind f).expand implement = (p.expand implement).bind fun a => (f a).expand implement := by
  induction p with
  | done a => rfl
  | step c next ih => simp [expand, ih, bind_assoc]

theorem run_expand (implement : (c : I.Call) → Program J (I.Answer c))
    (handle : (c : J.Call) → σ → J.Answer c × σ) (p : Program I α) (s : σ) :
    (p.expand implement).run handle s = p.run (fun c s => (implement c).run handle s) s := by
  induction p generalizing s with
  | done a => rfl
  | step c next ih => simp [expand, run_bind, ih]

end Program

end AssetCache
