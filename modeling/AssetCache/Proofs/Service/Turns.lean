import AssetCache.Proofs.Service.Entries
import AssetCache.Proofs.Store.Names
import AssetCache.Proofs.Store.Notes
import AssetCache.Proofs.Store.ReadBack

/-!
# One client's run, call by call

Where jobs run one after another, each to its end, the store is called once at a time: by a client,
or by a request that it is resolving.  Such a run is a list of turns: the calls, each with the world
in which it was made.

A call does one of three things.  A put that is through stores the blob that was read of its body,
and tells the proxy of it; a get may fill in a blob that the proxy gave; and all other calls leave
the entries as they are and tell nothing.

Results:
1. `Turn.effect`: what a call does.
2. `turns_induction`: what every call keeps holds of the turns and the world that a run leads to.
3. `run_noting_turns`: what the proxy is told in a run is what it is told in its turns.
4. `Turn.recorded`: what a call makes of the entries and of a recording proxy.
-/

namespace AssetCache

variable {π ν α : Type}

/-! ## Turns -/

/-- What a call answers when it runs alone, and the world after it. -/
def Request.perform (out : Surroundings π ν) (c : Request.Call.interface.Call) (w : World π ν) :
    Request.Call.interface.Answer c × World π ν :=
  (Request.implement c).run out w

/-- Make the calls of a client, with no others in between. -/
def Resolution.run (out : Surroundings π ν) (p : Resolution α) (w : World π ν) : α × World π ν :=
  Program.run (Request.perform out) p w

/-- The entry that a call is about. -/
def Request.Call.name? : Request.Call → Option EntryName
  | contains kind hasher hash _ => some ⟨kind, hasher, hash⟩
  | get kind hasher hash _ _ => some ⟨kind, hasher, hash⟩
  | put kind hasher hash _ _ => some ⟨kind, hasher, hash⟩
  | fetch _ => none
  | log _ => none

/-- A call, and the world in which it is made. -/
structure Turn (π ν : Type) where
  world : World π ν
  call : Request.Call

namespace Turn

variable (out : Surroundings π ν)

/-- What the call answers. -/
def answer (p : Turn π ν) : p.call.Answer := (Request.perform out p.call p.world).1

/-- The world after the call. -/
def after (p : Turn π ν) : World π ν := (Request.perform out p.call p.world).2

/-- What the call tells the proxy. -/
def notices (p : Turn π ν) : List Notice :=
  AssetCache.notices ((Request.implement p.call).history out p.world)

/-- What the call fetches. -/
def addresses (p : Turn π ν) : List Url.WebAddress :=
  AssetCache.addresses ((Request.implement p.call).history out p.world)

end Turn

/-- The turns of a client that runs alone. -/
def turns (out : Surroundings π ν) : Resolution α → World π ν → List (Turn π ν)
  | .done _, _ => []
  | .step c next, w =>
    ⟨w, c⟩ :: turns out (next (Request.perform out c w).1) (Request.perform out c w).2

/-- The names that are used, in order. -/
def names (t : List (Turn π ν)) : List EntryName := t.filterMap fun p => p.call.name?

theorem mem_names_append {t : List (Turn π ν)} {n : EntryName} (h : n ∈ names t)
    (t' : List (Turn π ν)) : n ∈ names (t ++ t') := by
  rw [names, List.filterMap_append]
  exact List.mem_append_left _ h

theorem mem_names_last {t : List (Turn π ν)} {p : Turn π ν} {n : EntryName}
    (h : p.call.name? = some n) : n ∈ names (t ++ [p]) :=
  List.mem_filterMap.2 ⟨p, List.mem_append_right _ List.mem_cons_self, h⟩

/-! ## Jobs one after another -/

namespace Job

/-- A job in calls. -/
def resolution : (job : Job) → Resolution job.Result
  | put kind hasher hash size body => Request.ask (.put kind hasher hash size body)
  | get kind hasher hash size offset => Request.ask (.get kind hasher hash size offset)
  | contains kind hasher hash size => Request.ask (.contains kind hasher hash size)
  | fetchBlob resolver request => resolver.fetchBlob request

/-- The calls of jobs, one job after another. -/
def inOrder : List Job → Resolution Unit
  | [] => pure ()
  | job :: jobs => job.resolution.bind fun _ => inOrder jobs

/-- Run jobs one after another, each to its end. -/
def runAll (out : Surroundings π ν) (jobs : List Job) (w : World π ν) : World π ν :=
  jobs.foldl (fun w job => (job.operation.run out w).2) w

theorem operation_eq (job : Job) :
    job.operation = job.resolution.expand Request.implement := by
  cases job with
  | put => exact (Program.bind_done _).symm
  | get => exact (Program.bind_done _).symm
  | contains => exact (Program.bind_done _).symm
  | fetchBlob => rfl

/-- To run a job is to make its calls. -/
theorem run_operation (out : Surroundings π ν) (job : Job) (w : World π ν) :
    job.operation.run out w = Resolution.run out job.resolution w := by
  rw [operation_eq]
  exact Program.run_expand ..

theorem runAll_eq (out : Surroundings π ν) (jobs : List Job) (w : World π ν) :
    runAll out jobs w = (Resolution.run out (inOrder jobs) w).2 := by
  induction jobs generalizing w with
  | nil => rfl
  | cons job jobs ih =>
    show runAll out jobs (job.operation.run out w).2 = _
    have hbind : Resolution.run out (inOrder (job :: jobs)) w =
        Resolution.run out (inOrder jobs) (Resolution.run out job.resolution w).2 :=
      Program.run_bind ..
    rw [ih, run_operation, hbind]

end Job

/-! ## Induction on turns -/

section

variable {out : Surroundings π ν} {inv : List (Turn π ν) → World π ν → Prop}

/-- What holds of no turns at first, and is kept by every call, holds of the turns of a run and of
the world that it leads to. -/
theorem turns_induction
    (hstep : ∀ past w c, inv past w → inv (past ++ [⟨w, c⟩]) (Request.perform out c w).2)
    (p : Resolution α) {past : List (Turn π ν)} {w : World π ν} (h : inv past w) :
    inv (past ++ turns out p w) (Resolution.run out p w).2 := by
  induction p generalizing past w with
  | done a => exact (List.append_nil past).symm ▸ h
  | step c next ih =>
    have hnext := ih (Request.perform out c w).1 (hstep past w c h)
    rwa [List.append_assoc] at hnext

/-- It holds at each turn, too, of the turns before it and the world in which it comes. -/
theorem turns_induction_at
    (hstep : ∀ past w c, inv past w → inv (past ++ [⟨w, c⟩]) (Request.perform out c w).2)
    (p : Resolution α) {past : List (Turn π ν)} {w : World π ν} (h : inv past w)
    {t₁ t₂ : List (Turn π ν)} {turn : Turn π ν} (hturns : turns out p w = t₁ ++ turn :: t₂) :
    inv (past ++ t₁) turn.world := by
  induction p generalizing past w t₁ with
  | done a => exact absurd hturns.symm (by simp [turns])
  | step c next ih =>
    cases t₁ with
    | nil =>
      obtain rfl := (List.cons.inj hturns).1
      exact (List.append_nil past).symm ▸ h
    | cons first t₁ =>
      obtain ⟨rfl, hrest⟩ := List.cons.inj hturns
      have hnext := ih (Request.perform out c w).1 (hstep past w c h) hrest
      rwa [List.append_assoc] at hnext

end

/-! ## What a call does -/

/-- What a proxy is told of an entry. -/
def EntryName.notice (n : EntryName) (blob : Bytes) : Notice :=
  ⟨n.kind, n.hash, blob.length, blob.length, blob⟩

/-- A turn stores a blob under a name: it is a put that succeeds, not of the empty blob and not
under a digest under which there is a blob, and the blob was read and verified of its body. -/
inductive Stores (out : Surroundings π ν) : Turn π ν → EntryName → Bytes → Prop
  | put {w : World π ν} {kind : EntryKind} {hasher : Hasher} {hash : String} {size : Nat}
    {body : Reader} {blob : Bytes}
    (hanswer : ((Cache.put kind hasher hash size body).run out w).1 = .ok ())
    (hempty : Cache.isEmptyBlob kind hasher hash = false)
    (hnew : kind = .cas → w.store.entries.find? (Entry.blobPath kind hasher hash) = none)
    (hverify : Cache.verify kind hasher hash (some size) body = .ok blob) :
    Stores out ⟨w, .put kind hasher hash size body⟩ ⟨kind, hasher, hash⟩ blob

theorem Stores.name {p : Turn π ν} {n : EntryName} {blob : Bytes} (h : Stores out p n blob) :
    p.call.name? = some n := by
  cases h with
  | put => rfl

/-- What a call makes of the entries, and what it tells the proxy. -/
inductive Effect (out : Surroundings π ν) : Turn π ν → EntryMap → List Notice → Prop
  /-- A put is through: its blob is stored, and the proxy is told of it. -/
  | stored (p : Turn π ν) (n : EntryName) (blob : Bytes) (h : Stores out p n blob) :
    Effect out p (p.world.store.entries.insert n.path blob) [n.notice blob]
  /-- A get fills in a blob that the proxy gave, which is told nothing. -/
  | filled (w : World π ν) (kind : EntryKind) (hasher : Hasher) (hash : String)
    (size : Option Nat) (offset : Nat) (body : Reader) (given : BlobSize) (blob : Bytes)
    (habsent : w.store.entries.find? (Entry.blobPath kind hasher hash) = none)
    (hgiven : (out.proxy.get kind hash size w.proxy).1 = .ok (some (body, given)))
    (hverify : Cache.verify kind hasher hash (given.known?.or size) body = .ok blob) :
    Effect out ⟨w, .get kind hasher hash size offset⟩
      (w.store.entries.insert (Entry.blobPath kind hasher hash) blob) []
  /-- Any other call leaves the entries as they are, and tells nothing. -/
  | kept (p : Turn π ν) (h : ∀ n blob, ¬ Stores out p n blob) :
    Effect out p p.world.store.entries []

theorem notices_of_reads {t : List Action.interface.Exchange} (h : ∀ e ∈ t, Action.Reads e.1) :
    notices t = [] := by
  refine List.flatMap_eq_nil_iff.2 fun e he => ?_
  have hreads := h e he
  obtain ⟨a, answer⟩ := e
  cases a with
  | finish => exact hreads.elim
  | _ => rfl

section

variable {out : Surroundings π ν} {w : World π ν} {kind : EntryKind} {hasher : Hasher}
  {hash : String} {t : List Action.interface.Exchange}

theorem effect_of_kept {c : Request.Call} (hno : ∀ n blob, ¬ Stores out ⟨w, c⟩ n blob)
    (hentries : (w.after out t).store.entries = w.store.entries) (hnotices : notices t = []) :
    Effect out ⟨w, c⟩ (w.after out t).store.entries (notices t) := by
  rw [hentries, hnotices]
  exact .kept ⟨w, c⟩ hno

theorem effect_of_reads {c : Request.Call} (hno : ∀ n blob, ¬ Stores out ⟨w, c⟩ n blob)
    (hallows : w.Allows out t) (h : ∀ e ∈ t, Action.Reads e.1) :
    Effect out ⟨w, c⟩ (w.after out t).store.entries (notices t) :=
  effect_of_kept hno (quiet_of_reads h out w hallows).1 (notices_of_reads h)

theorem get_effect {size : Option Nat} {offset : Nat} {result : Except CacheError (Option Bytes)}
    (hallows : w.Allows out t) (h : Cache.Found kind hasher hash size t result) :
    Effect out ⟨w, .get kind hasher hash size offset⟩ (w.after out t).store.entries
      (notices t) := by
  cases h with
  | filled body given blob hverify =>
    have habsent := (w.store.answer_lookup _).symm.trans hallows.1
    have hentries := w.store.entries_lookup (Entry.blobPath kind hasher hash)
    show Effect out _ ((w.store.lookup _).2.entries.insert _ blob) []
    rw [hentries]
    exact .filled w kind hasher hash size offset body given blob habsent hallows.2.1 hverify
  | _ => exact effect_of_reads (by rintro _ _ ⟨⟩) hallows (by simp [Action.Reads])

theorem not_stores_of_error {size : Nat} {body : Reader} {e : CacheError}
    (h : ((Cache.put kind hasher hash size body).run out w).1 = .error e) (n : EntryName)
    (blob : Bytes) : ¬ Stores out ⟨w, .put kind hasher hash size body⟩ n blob := by
  intro hstores
  cases hstores with
  | put hok => exact nomatch hok.symm.trans h

theorem put_effect {size : Nat} {body : Reader} {result : Except CacheError Unit}
    (hanswer : ((Cache.put kind hasher hash size body).run out w).1 = result)
    (hallows : w.Allows out t) (h : Cache.Stored kind hasher hash size body t result) :
    Effect out ⟨w, .put kind hasher hash size body⟩ (w.after out t).store.entries
      (notices t) := by
  cases h with
  | invalid => exact effect_of_kept (not_stores_of_error hanswer) rfl rfl
  | busy => exact effect_of_kept (not_stores_of_error hanswer) (w.store.entries_begin _ _) rfl
  | rejected =>
    exact effect_of_kept (not_stores_of_error hanswer) (quiet_rejected out w hallows).1 rfl
  | empty _ hempty =>
    refine effect_of_kept (fun n blob hstores => ?_) rfl rfl
    cases hstores with
    | put _ hnot => exact nomatch hempty.symm.trans hnot
  | present =>
    refine effect_of_kept (fun n blob hstores => ?_) (w.store.entries_begin _ _) rfl
    have hcas : kind = .cas := of_decide_eq_true (Store.onlyIfAbsent_of_present hallows.1)
    obtain ⟨found, hfind⟩ := Store.exists_of_present (s := w.store) hallows.1
    cases hstores with
    | put _ _ hnew => exact nomatch hfind.symm.trans (hnew hcas)
  | stored blob _ hempty hverify =>
    have hnew (hcas : kind = .cas) :
        w.store.entries.find? (Entry.blobPath kind hasher hash) = none :=
      Store.absent_of_begun hallows.1 (decide_eq_true hcas)
    have hstores : Stores out ⟨w, .put kind hasher hash size body⟩ ⟨kind, hasher, hash⟩ blob :=
      .put hanswer hempty hnew hverify
    have hentries := congrArg Store.entries (store_after_stored hallows)
    rw [hentries]
    exact .stored ⟨w, .put kind hasher hash size body⟩ ⟨kind, hasher, hash⟩ blob hstores

end

/-- What a call does. -/
theorem Turn.effect (out : Surroundings π ν) (p : Turn π ν) :
    Effect out p (p.after out).store.entries (p.notices out) := by
  obtain ⟨w, c⟩ := p
  have hleads := Operation.leads_history out (Request.implement c) w
  have hallows := Operation.allows_history out (Request.implement c) w
  have hafter := Operation.after_history out (Request.implement c) w
  show Effect out ⟨w, c⟩ ((Request.implement c).run out w).2.store.entries
    (AssetCache.notices ((Request.implement c).history out w))
  rw [← hafter]
  generalize (Request.implement c).history out w = t at hleads hallows
  generalize hanswer : ((Request.implement c).run out w).1 = answer at hleads
  cases c with
  | contains kind hasher hash size =>
    refine effect_of_reads (by rintro _ _ ⟨⟩) hallows ?_
    cases Cache.contains_leads hleads with
    | _ => simp [Action.Reads]
  | get kind hasher hash size offset =>
    obtain ⟨result, hfound, -⟩ := Cache.get_leads hleads
    exact get_effect hallows hfound
  | put kind hasher hash size body => exact put_effect hanswer hallows (Cache.put_leads.1 hleads)
  | fetch address =>
    obtain ⟨_, _, rfl, rfl, rfl⟩ := hleads
    exact effect_of_reads (by rintro _ _ ⟨⟩) hallows (by simp [Action.Reads])
  | log event =>
    obtain ⟨_, _, rfl, rfl, rfl⟩ := hleads
    exact effect_of_reads (by rintro _ _ ⟨⟩) hallows (by simp [Action.Reads])

/-! ## Notes of a run -/

theorem perform_noting (out : Surroundings π ν) (c : Request.Call.interface.Call)
    (w : World π ν) (told : List Notice) (asked : List Url.WebAddress) :
    Request.perform out.noting c (w.noted told asked) =
      ((Request.perform out c w).1, (Request.perform out c w).2.noted
        (told ++ (Turn.mk w c).notices out) (asked ++ (Turn.mk w c).addresses out)) :=
  Operation.run_noting ..

theorem run_noting_turns (out : Surroundings π ν) (p : Resolution α) (w : World π ν)
    (told : List Notice) (asked : List Url.WebAddress) :
    Resolution.run out.noting p (w.noted told asked) =
      ((Resolution.run out p w).1, (Resolution.run out p w).2.noted
        (told ++ (turns out p w).flatMap (Turn.notices out))
        (asked ++ (turns out p w).flatMap (Turn.addresses out))) := by
  induction p generalizing w told asked with
  | done a =>
    show (a, w.noted told asked) = (a, w.noted (told ++ []) (asked ++ []))
    rw [List.append_nil, List.append_nil]
  | step c next ih =>
    show Resolution.run out.noting (next (Request.perform out.noting c (w.noted told asked)).1)
      (Request.perform out.noting c (w.noted told asked)).2 = _
    rw [perform_noting, ih, List.append_assoc, List.append_assoc]
    rfl

/-! ## Before a recording proxy -/

open Service (withRecording)

/-- A recording proxy that was told of an entry. -/
def Proxy.Recording.tell (r : Proxy.Recording) (n : Notice) : Proxy.Recording :=
  { r.seed n.kind n.hash n.blob with puts := r.puts ++ [Entry.lookupKey n.kind n.hash] }

/-- What a recording proxy was told of an entry it holds under the kind and hash. -/
theorem Proxy.Recording.find?_tell (r : Proxy.Recording) (n : EntryName) (blob : Bytes)
    (kind : EntryKind) (hash : String) :
    (r.tell (n.notice blob)).find? kind hash =
      if n.kind = kind ∧ n.hash = hash then some blob else r.find? kind hash := by
  refine (Service.find?_seed r n.kind kind n.hash hash blob).trans ?_
  by_cases hsame : n.kind = kind ∧ n.hash = hash
  · obtain ⟨rfl, rfl⟩ := hsame
    rw [if_pos rfl, if_pos ⟨rfl, rfl⟩]
  · rw [if_neg fun hkey => hsame (Entry.lookupKey_injective hkey), if_neg hsame]

variable {hideSizes : Bool} {network : Network ν}

theorem World.proxy_after (w : World Proxy.Recording ν) (t : List Action.interface.Exchange) :
    (w.after (withRecording hideSizes network) t).proxy =
      (notices t).foldl Proxy.Recording.tell w.proxy := by
  induction t generalizing w with
  | nil => rfl
  | cons e t ih =>
    obtain ⟨a, answer⟩ := e
    have hnotices : notices (⟨a, answer⟩ :: t) = Action.notices a ++ notices t := rfl
    rw [hnotices, List.foldl_append, World.after_cons, ih]
    cases a with
    | finish path upload => cases upload <;> rfl
    | _ => rfl

/-- What a call makes of the entries and of a recording proxy. -/
inductive Recorded (hideSizes : Bool) (network : Network ν) :
    Turn Proxy.Recording ν → EntryMap → Proxy.Recording → Prop
  /-- A put is through: its blob is stored, and the proxy has it, too. -/
  | stored (p : Turn Proxy.Recording ν) (n : EntryName) (blob : Bytes)
    (h : Stores (withRecording hideSizes network) p n blob) :
    Recorded hideSizes network p (p.world.store.entries.insert n.path blob)
      (p.world.proxy.tell (n.notice blob))
  /-- A get fills in the blob that the proxy has. -/
  | filled (w : World Proxy.Recording ν) (n : EntryName) (size : Option Nat) (offset : Nat)
    (expected : Option Nat) (given blob : Bytes)
    (habsent : w.store.entries.find? n.path = none)
    (hgiven : w.proxy.find? n.kind n.hash = some given)
    (hverify : Cache.verify n.kind n.hasher n.hash expected (.ofBytes given) = .ok blob) :
    Recorded hideSizes network ⟨w, .get n.kind n.hasher n.hash size offset⟩
      (w.store.entries.insert n.path blob) w.proxy
  /-- Any other call leaves both as they are. -/
  | kept (p : Turn Proxy.Recording ν)
    (h : ∀ n blob, ¬ Stores (withRecording hideSizes network) p n blob) :
    Recorded hideSizes network p p.world.store.entries p.world.proxy

theorem of_recording_get {kind : EntryKind} {hash : String} {size : Option Nat}
    {r : Proxy.Recording} {body : Reader} {given : BlobSize}
    (h : ((Proxy.recording hideSizes).get kind hash size r).1 = .ok (some (body, given))) :
    ∃ blob, r.find? kind hash = some blob ∧ body = .ofBytes blob := by
  have hsome : (r.find? kind hash).map (fun blob =>
      (Reader.ofBytes blob, Proxy.recordedSize hideSizes blob)) = some (body, given) :=
    Except.ok.inj h
  obtain ⟨blob, hfind, hpair⟩ := Option.map_eq_some_iff.1 hsome
  exact ⟨blob, hfind, (Prod.mk.inj hpair).1.symm⟩

theorem Turn.recorded (hideSizes : Bool) (network : Network ν) (p : Turn Proxy.Recording ν) :
    Recorded hideSizes network p (p.after (withRecording hideSizes network)).store.entries
      (p.after (withRecording hideSizes network)).proxy := by
  have hproxy : (p.after (withRecording hideSizes network)).proxy =
      (p.notices (withRecording hideSizes network)).foldl Proxy.Recording.tell p.world.proxy := by
    rw [Turn.notices, ← World.proxy_after, Operation.after_history]
    rfl
  rw [hproxy]
  have heffect := p.effect (withRecording hideSizes network)
  generalize (p.after (withRecording hideSizes network)).store.entries = entries at heffect
  generalize p.notices (withRecording hideSizes network) = told at heffect
  cases heffect with
  | stored _ n blob h => exact .stored p n blob h
  | filled w kind hasher hash size offset body given blob habsent hgiven hverify =>
    obtain ⟨found, hfind, rfl⟩ := of_recording_get hgiven
    exact .filled w ⟨kind, hasher, hash⟩ size offset _ found blob habsent hfind hverify
  | kept _ h => exact .kept p h

end AssetCache
