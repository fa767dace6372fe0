import AssetCache.Program

/-!
# Contracts of programs

A contract says of each call of an interface when a program may make it, and what is promised of the
answer.  A program keeps a contract if, as long as it is answered as promised, it makes allowed
calls only.  What others do between its steps does not matter, as long as the answers stay as
promised, so that programs that share a state can be judged one by one.

Results:
1. `keeps_bind`, `Keeps.expand`: a program keeps a contract if its parts do.
2. `Keeps.run`: run by a handler that upholds the contract, a program has the result that it keeps.
3. `Keeps.run_congr`: what is not allowed does not matter to a run.
-/

namespace AssetCache

/-- When a call may be made, and what is promised of its answer. -/
structure Contract (I : Interface) where
  allows : I.Call → Prop
  grants : (c : I.Call) → I.Answer c → Prop

/-- A handler upholds a contract in the states of `inv`: what is allowed is answered as promised and
leads to such a state again. -/
def Contract.UpheldBy {I : Interface} {σ : Type} (K : Contract I)
    (handle : (c : I.Call) → σ → I.Answer c × σ) (inv : σ → Prop) : Prop :=
  ∀ c s, K.allows c → inv s → K.grants c (handle c s).1 ∧ inv (handle c s).2

namespace Program

variable {I J : Interface} {α β σ : Type}

/-- `p.Keeps K post`: as long as it is answered as `K` promises, `p` makes calls that `K` allows,
and its result has the property `post`. -/
def Keeps (K : Contract I) (post : α → Prop) : Program I α → Prop
  | done a => post a
  | step c next => K.allows c ∧ ∀ answer, K.grants c answer → (next answer).Keeps K post

variable {K : Contract I} {L : Contract J} {post : α → Prop} {postβ : β → Prop}

@[simp] theorem keeps_done (a : α) : (done a : Program I α).Keeps K post ↔ post a := Iff.rfl

@[simp] theorem keeps_step (c : I.Call) (next : I.Answer c → Program I α) :
    (step c next).Keeps K post ↔
      K.allows c ∧ ∀ answer, K.grants c answer → (next answer).Keeps K post := Iff.rfl

theorem Keeps.mono {post' : α → Prop} {p : Program I α} (h : p.Keeps K post)
    (hpost : ∀ a, post a → post' a) : p.Keeps K post' := by
  induction p with
  | done a => exact hpost a h
  | step c next ih => exact ⟨h.1, fun answer hg => ih answer (h.2 answer hg)⟩

/-- One program after another keeps what the first keeps for the sake of the second. -/
@[simp] theorem keeps_bind (p : Program I α) (f : α → Program I β) :
    (p.bind f).Keeps K postβ ↔ p.Keeps K fun a => (f a).Keeps K postβ := by
  induction p with
  | done a => rfl
  | step c next ih =>
    simp only [step_bind, keeps_step]
    exact and_congr_right fun _ => forall_congr' fun answer => imp_congr_right fun _ => ih answer

/-- An implementation that gives what one contract promises, while it keeps another, carries
programs that keep the one to programs that keep the other. -/
theorem Keeps.expand {implement : (c : I.Call) → Program J (I.Answer c)}
    (himplement : ∀ c, K.allows c → (implement c).Keeps L (K.grants c))
    {p : Program I α} (h : p.Keeps K post) : (p.expand implement).Keeps L post := by
  induction p with
  | done a => exact h
  | step c next ih =>
    show ((implement c).bind fun answer => (next answer).expand implement).Keeps L post
    rw [keeps_bind]
    exact (himplement c h.1).mono fun answer hg => ih answer (h.2 answer hg)

/-- Run by a handler that upholds the contract, a program that keeps it has such a result, and ends
in such a state. -/
theorem Keeps.run {handle : (c : I.Call) → σ → I.Answer c × σ} {inv : σ → Prop}
    (hup : K.UpheldBy handle inv) {p : Program I α} (h : p.Keeps K post) {s : σ} (hs : inv s) :
    post (p.run handle s).1 ∧ inv (p.run handle s).2 := by
  induction p generalizing s with
  | done a => exact ⟨h, hs⟩
  | step c next ih =>
    obtain ⟨hgrants, hinv⟩ := hup c s h.1 hs
    exact ih _ (h.2 _ hgrants) hinv

/-- Two handlers that agree on the calls that a contract allows run alike a program that keeps it.
-/
theorem Keeps.run_congr {handle handle' : (c : I.Call) → σ → I.Answer c × σ}
    (hsame : ∀ c s, K.allows c → handle c s = handle' c s ∧ K.grants c (handle c s).1)
    {p : Program I α} (h : p.Keeps K post) (s : σ) : p.run handle s = p.run handle' s := by
  induction p generalizing s with
  | done a => rfl
  | step c next ih =>
    obtain ⟨hsame', hgrants⟩ := hsame c s h.1
    rw [run_step, run_step, ← hsame']
    exact ih _ (h.2 _ hgrants) _

theorem run_preserves {handle : (c : I.Call) → σ → I.Answer c × σ} {inv : σ → Prop}
    (hstep : ∀ c s, inv s → inv (handle c s).2) (p : Program I α) {s : σ} (hs : inv s) :
    inv (p.run handle s).2 := by
  induction p generalizing s with
  | done a => exact hs
  | step c next ih => exact ih _ (hstep c s hs)

end Program

end AssetCache
