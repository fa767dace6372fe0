import AssetCache.Proofs.Asset.Steps

/-!
# Outcomes but for the log

Events are written and never read.  So it does not matter to what an operation answers, nor to what
becomes of the store, the proxy and the network, what is in the log when it starts; and the outcome
of a sequence is that of its parts, with the events left out.

Results:
1. `Operation.outcome_silent`: the log is written and never read.
2. `Operation.outcome_bind`, `Resolution.outcome_bind`: the outcome of a sequence.
-/

namespace AssetCache

variable {π ν α β : Type}

/-- The world with nothing in its log. -/
def World.silent (w : World π ν) : World π ν := { w with log := [] }

theorem Action.perform_silent (out : Surroundings π ν) (a : Action) (w : World π ν) :
    (a.perform out w.silent).1 = (a.perform out w).1 ∧
      (a.perform out w.silent).2.silent = (a.perform out w).2.silent := by
  cases a with
  | finish path upload => cases upload <;> exact ⟨rfl, rfl⟩
  | _ => exact ⟨rfl, rfl⟩

/-- What an operation answers, and the world after it but for the log. -/
def Operation.outcome (out : Surroundings π ν) (op : Operation α) (w : World π ν) :
    α × World π ν :=
  ((op.run out w).1, (op.run out w).2.silent)

/-- What is in the log changes nothing of what follows. -/
theorem Operation.outcome_silent (out : Surroundings π ν) (op : Operation α) (w : World π ν) :
    op.outcome out w.silent = op.outcome out w := by
  induction op generalizing w with
  | done a => rfl
  | step a next ih =>
    obtain ⟨hanswer, hworld⟩ := a.perform_silent out w
    let after := Operation.outcome out (next (a.perform out w).1)
    calc Operation.outcome out (next (a.perform out w.silent).1) (a.perform out w.silent).2
        = after (a.perform out w.silent).2 := by rw [hanswer]
      _ = after (a.perform out w.silent).2.silent := (ih _ _).symm
      _ = after (a.perform out w).2.silent := by rw [hworld]
      _ = after (a.perform out w).2 := ih _ _

theorem Operation.outcome_bind (out : Surroundings π ν) (op : Operation α) (f : α → Operation β)
    (w : World π ν) :
    Operation.outcome out (op.bind f) w =
      Operation.outcome out (f (op.outcome out w).1) (op.outcome out w).2 :=
  calc Operation.outcome out (op.bind f) w
      = Operation.outcome out (f (op.run out w).1) (op.run out w).2 :=
        congrArg (fun r : β × World π ν => (r.1, r.2.silent))
          (Program.run_bind (I := Action.interface) (Action.perform out) op f w)
    _ = Operation.outcome out (f (op.run out w).1) (op.run out w).2.silent :=
        (Operation.outcome_silent ..).symm

/-- What a call is answered, and the world after it but for the log. -/
def World.ask (out : Surroundings π ν) (w : World π ν) (c : Request.Call) : c.Answer × World π ν :=
  Operation.outcome out (Request.implement c) w

theorem World.ask_silent (out : Surroundings π ν) (w : World π ν) (c : Request.Call) :
    w.silent.ask out c = w.ask out c :=
  Operation.outcome_silent ..

namespace Resolution

/-- What a resolution leads to on the cache, but for the log. -/
def outcome (out : Surroundings π ν) (p : Resolution α) (w : World π ν) : α × World π ν :=
  Operation.outcome out
    (Program.expand (I := Request.Call.interface) (J := Action.interface) Request.implement p) w

variable {out : Surroundings π ν}

theorem outcome_silent (p : Resolution α) (w : World π ν) :
    outcome out p w.silent = outcome out p w :=
  Operation.outcome_silent ..

theorem silent_of_outcome {p : Resolution α} {w : World π ν} {x : α × World π ν}
    (h : outcome out p w = x) : x.2.silent = x.2 := by
  rw [← h]
  rfl

theorem outcome_bind (p : Resolution α) (f : α → Resolution β) (w : World π ν) :
    outcome out (p >>= f) w = outcome out (f (outcome out p w).1) (outcome out p w).2 := by
  have hexpand := Program.expand_bind (I := Request.Call.interface) (J := Action.interface)
    Request.implement p f
  unfold outcome
  exact (congrArg (Operation.outcome out · w) hexpand).trans (Operation.outcome_bind ..)

theorem outcome_map (p : Resolution α) (f : α → β) (w : World π ν) :
    outcome out (p >>= fun a => pure (f a)) w = Prod.map f id (outcome out p w) :=
  outcome_bind ..

theorem outcome_ask (c : Request.Call) (w : World π ν) :
    outcome out (Request.ask c) w = w.ask out c := by
  show Operation.outcome out (Program.bind (Request.implement c) Program.done) w = _
  rw [Program.bind_done]
  rfl

theorem outcome_log (event : Event) (f : Unit → Resolution β) (w : World π ν) :
    outcome out (Request.ask (.log event) >>= f) w = outcome out (f ()) w :=
  (outcome_bind (Request.ask (.log event)) f w).trans (outcome_silent (f ()) w)

end Resolution

end AssetCache
