import AssetCache.Proofs.Service.Integrity

/-!
# The service with one client

A store is settled if jobs led to it that ran one after another, each to its end.  Between them the
store's surroundings may change: nothing is said of the proxy and the network that the next job
meets.

Results:
1. `Settled.sound`: a settled store is sound.
2. `Settled.inFlight`: nothing is being written in it.
-/

namespace AssetCache

variable {π ν : Type} {H : List Hasher}

/-- The stores that jobs with hashers of `H` lead to, one after another. -/
inductive Settled (H : List Hasher) : Store → Prop
  | empty : Settled H Store.empty
  | after {π ν : Type} (out : Surroundings π ν) (w : World π ν) (job : Job)
    (hjob : ∀ h ∈ job.hashers, h ∈ H) (hw : Settled H w.store) :
    Settled H (job.operation.run out w).2.store

theorem Settled.sound {s : Store} (h : Settled H s) : Sound H s := by
  induction h with
  | empty => exact sound_empty
  | after out w job hjob _ ih =>
    exact (Program.Keeps.run (integrity_upheld out) (job.keeps hjob) ih).2

/-! ## Marks -/

/-- Whether a step leaves the marks of writes as they are. -/
def Action.Unmarked : Action → Prop
  | begin _ _ => False
  | finish _ _ => False
  | _ => True

theorem Action.inFlight_perform {a : Action} (h : a.Unmarked) (out : Surroundings π ν)
    (w : World π ν) : (a.perform out w).2.store.inFlight = w.store.inFlight := by
  cases a with
  | lookup path => exact w.store.inFlight_lookup path
  | begin => exact h.elim
  | finish => exact h.elim
  | fill => rfl
  | askProxy => rfl
  | openProxy => rfl
  | fetch => rfl
  | log => rfl

theorem World.inFlight_after {out : Surroundings π ν} {t : List Action.interface.Exchange}
    (h : ∀ e ∈ t, Action.Unmarked e.1) (w : World π ν) :
    (w.after out t).store.inFlight = w.store.inFlight := by
  induction t generalizing w with
  | nil => rfl
  | cons e t ih =>
    have he := Action.inFlight_perform (h e List.mem_cons_self) out w
    exact (ih (fun e he => h e (List.mem_cons_of_mem _ he)) _).trans he

theorem Request.inFlight_implement (c : Request.Call) (out : Surroundings π ν) (w : World π ν) :
    ((Request.implement c).run out w).2.store.inFlight = w.store.inFlight := by
  have hleads := Operation.leads_history out (Request.implement c) w
  have hallows := Operation.allows_history out (Request.implement c) w
  rw [← Operation.after_history]
  generalize (Request.implement c).history out w = t at hleads hallows ⊢
  generalize ((Request.implement c).run out w).1 = answer at hleads
  cases c with
  | contains kind hasher hash size =>
    refine World.inFlight_after ?_ w
    cases Cache.contains_leads hleads with
    | empty => simp
    | stored => simp [Action.Unmarked]
    | asked => simp [Action.Unmarked]
  | get kind hasher hash size offset =>
    refine World.inFlight_after ?_ w
    obtain ⟨result, hfound, -⟩ := Cache.get_leads hleads
    cases hfound with
    | empty => simp
    | filled => simp [Action.Unmarked]
    | _ => simp [Action.Unmarked]
  | put kind hasher hash size body =>
    cases Cache.put_leads.1 hleads with
    | invalid => rfl
    | empty => rfl
    | present =>
      have hne : Admission.present ≠ .begun := nofun
      exact (quiet_refused hne out w hallows).2
    | busy =>
      have hne : Admission.busy ≠ .begun := nofun
      exact (quiet_refused hne out w hallows).2
    | rejected => exact (quiet_rejected out w hallows).2
    | stored => rw [store_after_stored hallows]
  | fetch address =>
    obtain ⟨_, _, rfl, rfl, rfl⟩ := hleads
    rfl
  | log event =>
    obtain ⟨_, _, rfl, rfl, rfl⟩ := hleads
    rfl

/-- The marks of a world are these. -/
def MarkedAs (marks : List String) (w : World π ν) : Prop := w.store.inFlight = marks

theorem Job.inFlight_run (job : Job) (out : Surroundings π ν) (w : World π ν) :
    (job.operation.run out w).2.store.inFlight = w.store.inFlight := by
  cases job with
  | put kind hasher hash size body =>
    exact Request.inFlight_implement (.put kind hasher hash size body) out w
  | get kind hasher hash size offset =>
    exact Request.inFlight_implement (.get kind hasher hash size offset) out w
  | contains kind hasher hash size =>
    exact Request.inFlight_implement (.contains kind hasher hash size) out w
  | fetchBlob resolver request =>
    -- An expanded program runs as the program itself does, with whole calls as its steps.
    let handle (c : Request.Call) (w : World π ν) := (Request.implement c).run out w
    have hexpand : (resolver.fetchBlobOperation request).run out w =
        Program.run (I := Request.Call.interface) handle (resolver.fetchBlob request) w :=
      Program.run_expand ..
    have hrun : MarkedAs w.store.inFlight
        (Program.run (I := Request.Call.interface) handle (resolver.fetchBlob request) w).2 :=
      Program.run_preserves (fun c w' h => (Request.inFlight_implement c out w').trans h) _ rfl
    show ((resolver.fetchBlobOperation request).run out w).2.store.inFlight = _
    rw [hexpand]
    exact hrun

/-- Between jobs, nothing is being written. -/
theorem Settled.inFlight {s : Store} (h : Settled H s) : s.inFlight = [] := by
  induction h with
  | empty => rfl
  | after out w job _ _ ih => exact (job.inFlight_run out w).trans ih

end AssetCache
