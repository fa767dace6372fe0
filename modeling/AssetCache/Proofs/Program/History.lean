import AssetCache.Proofs.Program.Contract

/-!
# Histories of programs

What a program did is a list of exchanges: the calls that it made, each with its answer.  A program
is led by a history to a result if it makes just these calls, one after another, when it is answered
so.  Nothing is said of where the answers come from: the history of one program among others is one,
and so is that of a program that runs alone (`trace`).

Of a history one can also say what it makes of a state: `Honest` says that its answers are those of
a handler, and `after` what state the calls lead to.

Results:
1. `leads_bind`: the history of a sequence of two programs falls into two.
2. `exists_call_of_expand`: what an expanded program does, it does in one of its calls.
3. `exists_leads`: if every call can be answered, a program can be led to a result.
4. `leads_trace`, `honest_trace`, `after_trace`: a run leads to its result by what it did, and to
   its state.
5. `trace_bind`: what a sequence of two programs does when it runs.
-/

namespace AssetCache

/-- Outcomes can be compared, so that what a given run leads to can be decided. -/
instance decidableEqOutcome {ε α : Type} [DecidableEq ε] [DecidableEq α] :
    DecidableEq (Except ε α)
  | .ok a, .ok b => decidable_of_iff (a = b) ⟨congrArg _, Except.ok.inj⟩
  | .error a, .error b => decidable_of_iff (a = b) ⟨congrArg _, Except.error.inj⟩
  | .ok _, .error _ => isFalse nofun
  | .error _, .ok _ => isFalse nofun

/-- A call and the answer to it. -/
abbrev Interface.Exchange (I : Interface) : Type := (c : I.Call) × I.Answer c

namespace Program

variable {I J : Interface} {α β σ : Type}

/-- `p.Leads t a`: if `p` is answered as in `t`, then its calls are those of `t`, and its result
is `a`. -/
def Leads : Program I α → List I.Exchange → α → Prop
  | done a, t, b => t = [] ∧ a = b
  | step c next, t, b => ∃ answer rest, t = ⟨c, answer⟩ :: rest ∧ (next answer).Leads rest b

/-- The exchanges of a run. -/
def trace (handle : (c : I.Call) → σ → I.Answer c × σ) : Program I α → σ → List I.Exchange
  | done _, _ => []
  | step c next, s => ⟨c, (handle c s).1⟩ :: (next (handle c s).1).trace handle (handle c s).2

@[simp] theorem leads_done (a b : α) (t : List I.Exchange) :
    (done a : Program I α).Leads t b ↔ t = [] ∧ a = b := Iff.rfl

@[simp] theorem leads_step (c : I.Call) (next : I.Answer c → Program I α) (t : List I.Exchange)
    (b : α) :
    (step c next).Leads t b ↔
      ∃ answer rest, t = ⟨c, answer⟩ :: rest ∧ (next answer).Leads rest b := Iff.rfl

/-- The history of one program after another is that of the one, and then that of the other. -/
theorem leads_bind (p : Program I α) (f : α → Program I β) (t : List I.Exchange) (b : β) :
    (p.bind f).Leads t b ↔ ∃ t₁ t₂ a, t = t₁ ++ t₂ ∧ p.Leads t₁ a ∧ (f a).Leads t₂ b := by
  induction p generalizing t with
  | done a =>
    simp only [done_bind, leads_done]
    constructor
    · exact fun h => ⟨[], t, a, rfl, ⟨rfl, rfl⟩, h⟩
    · rintro ⟨t₁, t₂, _, rfl, ⟨rfl, rfl⟩, h⟩
      exact h
  | step c next ih =>
    simp only [step_bind, leads_step, ih]
    constructor
    · rintro ⟨answer, _, rfl, t₁, t₂, a, rfl, h₁, h₂⟩
      exact ⟨⟨c, answer⟩ :: t₁, t₂, a, rfl, ⟨answer, t₁, rfl, h₁⟩, h₂⟩
    · rintro ⟨_, t₂, a, rfl, ⟨answer, t₁, rfl, h₁⟩, h₂⟩
      exact ⟨answer, t₁ ++ t₂, rfl, t₁, t₂, a, rfl, h₁, h₂⟩

/-- Each exchange of an expanded program is one of the implementation of a call, after others of
the same call.  A program that keeps a contract makes allowed calls only. -/
theorem exists_call_of_expand {K : Contract I} {post : α → Prop}
    {implement : (c : I.Call) → Program J (I.Answer c)}
    (hgrants : ∀ c t answer, (implement c).Leads t answer → K.grants c answer)
    {p : Program I α} (hkeeps : p.Keeps K post) {t₁ t₂ : List J.Exchange} {e : J.Exchange} {a : α}
    (h : (p.expand implement).Leads (t₁ ++ e :: t₂) a) :
    ∃ c answer earlier v₁ v₂, K.allows c ∧ t₁ = earlier ++ v₁ ∧
      (implement c).Leads (v₁ ++ e :: v₂) answer := by
  induction p generalizing t₁ with
  | done b => exact absurd h.1 (by simp)
  | step c next ih =>
    obtain ⟨u₁, u₂, answer, heq, h₁, h₂⟩ := (leads_bind _ _ _ _).1 h
    have hnext := hkeeps.2 answer (hgrants c u₁ answer h₁)
    rcases List.append_eq_append_iff.1 heq with ⟨_ | ⟨e', m⟩, rfl, hm⟩ | ⟨m, rfl, rfl⟩
    · -- The first call ends just before the exchange.
      obtain rfl : u₂ = e :: t₂ := hm.symm
      obtain ⟨c', answer', earlier, v₁, v₂, hallows, heq', hleads⟩ := @ih answer hnext [] h₂
      refine ⟨c', answer', t₁ ++ earlier, v₁, v₂, hallows, ?_, hleads⟩
      rw [List.append_assoc, ← heq', List.append_nil]
    · obtain ⟨rfl, -⟩ := List.cons.inj hm
      exact ⟨c, answer, [], t₁, m, hkeeps.1, rfl, h₁⟩
    · obtain ⟨c', answer', earlier, v₁, v₂, hallows, rfl, hleads⟩ := ih answer hnext h₂
      exact ⟨c', answer', u₁ ++ earlier, v₁, v₂, hallows, (List.append_assoc ..).symm, hleads⟩

/-- Histories that are the same end with the same exchange. -/
theorem last_exchange {t₁ t₂ : List I.Exchange} {c₁ c₂ : I.Call} {answer₁ : I.Answer c₁}
    {answer₂ : I.Answer c₂} (h : t₁ ++ [⟨c₁, answer₁⟩] = t₂ ++ [⟨c₂, answer₂⟩]) :
    c₁ = c₂ ∧ answer₁ ≍ answer₂ := by
  obtain ⟨-, hlast⟩ := List.append_inj' h rfl
  exact Sigma.mk.inj (List.singleton_inj.1 hlast)

theorem exists_leads (hanswer : ∀ c : I.Call, Nonempty (I.Answer c)) (p : Program I α) :
    ∃ t a, p.Leads t a := by
  induction p with
  | done a => exact ⟨[], a, rfl, rfl⟩
  | step c next ih =>
    obtain ⟨answer⟩ := hanswer c
    obtain ⟨t, a, h⟩ := ih answer
    exact ⟨⟨c, answer⟩ :: t, a, answer, t, rfl, h⟩

/-- A program that nothing but the empty history leads on makes no call. -/
theorem exists_eq_done (hanswer : ∀ c : I.Call, Nonempty (I.Answer c)) {p : Program I α}
    (h : ∀ t a, p.Leads t a → t = []) : ∃ a, p = done a := by
  cases p with
  | done a => exact ⟨a, rfl⟩
  | step c next =>
    obtain ⟨t, a, hleads⟩ := exists_leads hanswer (step c next)
    obtain rfl := h t a hleads
    obtain ⟨_, _, heq, -⟩ := hleads
    exact nomatch heq

theorem leads_trace (handle : (c : I.Call) → σ → I.Answer c × σ) (p : Program I α) (s : σ) :
    p.Leads (p.trace handle s) (p.run handle s).1 := by
  induction p generalizing s with
  | done a => exact ⟨rfl, rfl⟩
  | step c next ih => exact ⟨(handle c s).1, _, rfl, ih _ _⟩

theorem trace_bind (handle : (c : I.Call) → σ → I.Answer c × σ) (p : Program I α)
    (f : α → Program I β) (s : σ) :
    (p.bind f).trace handle s =
      p.trace handle s ++ (f (p.run handle s).1).trace handle (p.run handle s).2 := by
  induction p generalizing s with
  | done a => rfl
  | step c next ih =>
    simp only [step_bind, trace, run_step, ih]
    rfl

/-! ## Histories and states -/

/-- Each answer in a history is that of the handler, from the state `s` on. -/
def Honest (handle : (c : I.Call) → σ → I.Answer c × σ) : σ → List I.Exchange → Prop
  | _, [] => True
  | s, e :: t => (handle e.1 s).1 = e.2 ∧ Honest handle (handle e.1 s).2 t

/-- The state that the calls of a history lead to. -/
def after (handle : (c : I.Call) → σ → I.Answer c × σ) (s : σ) (t : List I.Exchange) : σ :=
  t.foldl (fun s e => (handle e.1 s).2) s

variable {handle : (c : I.Call) → σ → I.Answer c × σ}

@[simp] theorem after_nil (s : σ) : after handle s [] = s := rfl

@[simp] theorem after_cons (s : σ) (e : I.Exchange) (t : List I.Exchange) :
    after handle s (e :: t) = after handle (handle e.1 s).2 t := rfl

@[simp] theorem after_append (s : σ) (t₁ t₂ : List I.Exchange) :
    after handle s (t₁ ++ t₂) = after handle (after handle s t₁) t₂ :=
  List.foldl_append

@[simp] theorem honest_nil (s : σ) : Honest handle s [] := trivial

@[simp] theorem honest_cons (s : σ) (e : I.Exchange) (t : List I.Exchange) :
    Honest handle s (e :: t) ↔ (handle e.1 s).1 = e.2 ∧ Honest handle (handle e.1 s).2 t := Iff.rfl

@[simp] theorem honest_append (s : σ) (t₁ t₂ : List I.Exchange) :
    Honest handle s (t₁ ++ t₂) ↔ Honest handle s t₁ ∧ Honest handle (after handle s t₁) t₂ := by
  induction t₁ generalizing s with
  | nil => simp
  | cons e t₁ ih => simp [ih, and_assoc]

theorem honest_trace (p : Program I α) (s : σ) : Honest handle s (p.trace handle s) := by
  induction p generalizing s with
  | done a => trivial
  | step c next ih => exact ⟨rfl, ih _ _⟩

theorem after_trace (p : Program I α) (s : σ) :
    after handle s (p.trace handle s) = (p.run handle s).2 := by
  induction p generalizing s with
  | done a => rfl
  | step c next ih => exact ih _ _

end Program

end AssetCache
