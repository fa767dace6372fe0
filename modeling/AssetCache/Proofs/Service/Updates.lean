import AssetCache.Proofs.Service.Entries
import AssetCache.Proofs.Service.Marks

/-!
# Updates of an entry

An entry that does not go by its own digest may be put again, and a get is to give what was put
last.  It does, but for one gap: a get that misses the store asks the proxy, and stores what that
gave it with a later step, whatever came to be stored in between.  It marks nothing meanwhile, as a
put does.  So a blob from before a put can come back after it, and stays.

Results:
1. `Renewed.move`: once a put is through, all that the store and the proxy give under its path was
   stored with it or later, but for what was being filled in by then.
2. `get_after_put`: so is what a get gives that is started after the put.
-/

namespace AssetCache

variable {π ν : Type} {out : Surroundings π ν} {kind : EntryKind} {hasher : Hasher} {hash : String}
  {size : Nat} {body : Reader} {path : String} {blob : Bytes}

/-- Whether a job puts or gets this entry.  Sizes have 64 bits. -/
def Job.Of (kind : EntryKind) (hash : String) : Job → Prop
  | .put k _ x size _ => k = kind ∧ x = hash ∧ size ≤ Decimal.largest
  | .get k _ x _ _ => k = kind ∧ x = hash
  | .contains .. => False
  | .fetchBlob .. => False

namespace Service

/-! ## What was stored, and what is being filled in -/

/-- The task with this number has stored a blob, and told the proxy. -/
def HasStored (s : Service π ν) (i : Nat) (u : Upload) : Prop :=
  ∃ t p, s.tasks[i]? = some t ∧ ⟨.finish p (some u), ()⟩ ∈ t.history

theorem HasStored.move {s : Service π ν} {i : Nat} {u : Upload} (h : s.HasStored i u) (m : Move) :
    (s.move out m).HasStored i u := by
  obtain ⟨t, p, ht, hmem⟩ := h
  obtain ⟨t', ht', -, hhistory, -⟩ := exists_task_move s m ht
  exact ⟨t', p, ht', hhistory.subset hmem⟩

/-- A blob has been stored since the service was `s₀`. -/
def StoredSince (s₀ s : Service π ν) (u : Upload) : Prop :=
  ∃ i, s.HasStored i u ∧ ¬ s₀.HasStored i u

theorem StoredSince.move {s₀ s : Service π ν} {u : Upload} (h : StoredSince s₀ s u) (m : Move) :
    StoredSince s₀ (s.move out m) u := by
  obtain ⟨i, hstored, hnot⟩ := h
  exact ⟨i, hstored.move m, hnot⟩

/-- A get is about to store what the proxy gave it. -/
def Filling (s : Service π ν) (path : String) (blob : Bytes) : Prop :=
  ∃ t ∈ s.tasks, ∃ next, t.rest = some (.step (.fill path blob) next)

/-- A blob has been stored since the service was `s₀`, or was being filled in then. -/
def Recent (s₀ s : Service π ν) (kind : EntryKind) (hash path : String) (blob : Bytes) : Prop :=
  StoredSince s₀ s ⟨kind, hash, blob⟩ ∨ s₀.Filling path blob

theorem Recent.move {s₀ s : Service π ν} (h : Recent s₀ s kind hash path blob) (m : Move) :
    Recent s₀ (s.move out m) kind hash path blob :=
  h.imp (·.move m) id

/-- What a put is about to store is of its entry, and is the first that it stores. -/
theorem upload_of_finish {t : Task} (hof : t.job.Of kind hash) (hfollows : Follows t) {p : String}
    {u : Upload} {next : Unit → Operation t.job.Result}
    (hrest : t.rest = some (.step (.finish p (some u)) next)) :
    u = ⟨kind, hash, u.blob⟩ ∧ u.blob.length ≤ Decimal.largest ∧
      ∀ p' u', ⟨.finish p' u', ()⟩ ∉ t.history := by
  obtain ⟨more, result, hleads⟩ := hfollows.leads_step hrest ()
  have hends : (⟨.finish p (some u), ()⟩ : Action.interface.Exchange) ∈
      t.history ++ ⟨.finish p (some u), ()⟩ :: more := List.mem_append_right _ List.mem_cons_self
  obtain ⟨job, history, rest⟩ := t
  cases job with
  | put k h x size body =>
    obtain ⟨rfl, rfl, hsize⟩ := hof
    obtain ⟨-, hbegun, -, hlanding⟩ := Cache.landing_of_stored (Cache.put_leads.1 hleads)
    obtain ⟨blob, hverify⟩ := hlanding
    obtain ⟨hlength, -⟩ := Cache.length_of_readSized (Cache.readSized_of_verify hverify)
    refine ⟨rfl, hlength ▸ hsize, fun p' u' hmem => ?_⟩
    obtain rfl : history = _ := hbegun
    exact nomatch List.mem_singleton.1 hmem
  | get k h x size offset =>
    exact (Job.unmarked (.get k h x size offset) not_false hleads _ hends).elim
  | contains => exact hof.elim
  | fetchBlob => exact hof.elim

theorem storedSince_of_finish {s₀ s : Service π ν}
    (hsince : ∀ i u, s₀.HasStored i u → s.HasStored i u) {i : Nat} {t : Task}
    (ht : s.tasks[i]? = some t) (hof : t.job.Of kind hash)
    (hfollows : Follows t) {p : String} {u : Upload} {next : Unit → Operation t.job.Result}
    (hrest : t.rest = some (.step (.finish p (some u)) next)) :
    StoredSince s₀ (s.move out (.advance i)) ⟨kind, hash, u.blob⟩ := by
  obtain ⟨hu, -, hfirst⟩ := upload_of_finish hof hfollows hrest
  obtain ⟨hlt, -⟩ := List.getElem?_eq_some_iff.1 ht
  rw [← hu]
  refine ⟨i, ?_, fun hstored => ?_⟩
  · rw [move_advance ht hrest]
    exact ⟨_, p, List.getElem?_set_self hlt, List.mem_append_right _ (List.mem_singleton_self _)⟩
  · obtain ⟨t', p', ht', hmem⟩ := hsince i u hstored
    obtain rfl : t = t' := Option.some.inj (ht.symm.trans ht')
    exact hfirst p' _ hmem

/-- What a get is about to fill in is what the proxy has just given it. -/
theorem opened_of_fill {t : Task} (hof : t.job.Of kind hash) (hfollows : Follows t) {p : String}
    {next : Unit → Operation t.job.Result} (hrest : t.rest = some (.step (.fill p blob) next)) :
    ∃ hasher size body n,
      t.history = [⟨.lookup p, none⟩, ⟨.openProxy kind hash size, .ok (some (body, n))⟩] ∧
        Cache.verify kind hasher hash (n.known?.or size) body = .ok blob := by
  obtain ⟨more, result, hleads⟩ := hfollows.leads_step hrest ()
  obtain ⟨job, history, rest⟩ := t
  cases job with
  | put =>
    exact (Cache.not_fills_of_stored (Cache.put_leads.1 hleads) _
      (List.mem_append_right _ List.mem_cons_self) trivial).elim
  | get k h x size offset =>
    obtain ⟨rfl, rfl⟩ := hof
    obtain ⟨_, hfound, -⟩ := Cache.get_leads hleads
    obtain ⟨body, n, hhistory, -, hverify⟩ := Cache.opened_of_found hfound
    exact ⟨h, size, body, n, hhistory, hverify⟩
  | contains => exact hof.elim
  | fetchBlob => exact hof.elim

/-! ## After a put -/

variable {hideSizes : Bool} {network : Network ν} {s₀ s : Service Proxy.Recording ν}

/-- Under the path of an entry, nothing is left from before `s₀` but what was being filled in. -/
structure Renewed (s₀ s : Service Proxy.Recording ν) (kind : EntryKind) (hash path : String) :
    Prop where
  since : ∀ i u, s₀.HasStored i u → s.HasStored i u
  entry : ∃ blob, s.entryAt path = some blob ∧ Recent s₀ s kind hash path blob
  proxy : ∃ blob, s.world.proxy.find? kind hash = some blob ∧
    blob.length ≤ Decimal.largest ∧ StoredSince s₀ s ⟨kind, hash, blob⟩
  fills : ∀ blob, s.Filling path blob → Recent s₀ s kind hash path blob
  /-- No task that was started since has missed the entry. -/
  lookups : ∀ i t, s₀.tasks.length ≤ i → s.tasks[i]? = some t →
    ∀ found : Option Bytes, ⟨.lookup path, found⟩ ∈ t.history →
      ∃ blob, found = some blob ∧ Recent s₀ s kind hash path blob

/-- What a task comes to fill in with its last step is what the proxy held. -/
theorem eq_of_filling {t : Task} {earlier : List Action.interface.Exchange} {action : Action}
    {next : Unit → Operation t.job.Result} {held : Bytes}
    (hproxy : s.world.proxy.find? kind hash = some held) (hlength : held.length ≤ Decimal.largest)
    (hof : t.job.Of kind hash) (hfollows : Follows t)
    (hhistory : t.history = earlier ++
      [⟨action, (action.perform (withRecording hideSizes network) s.world).1⟩])
    (hrest : t.rest = some (.step (.fill path blob) next)) : blob = held := by
  obtain ⟨hasher, size, body, n, hopened, hverify⟩ := opened_of_fill hof hfollows hrest
  replace hopened : earlier ++ [_] = [_] ++ [_] := hhistory.symm.trans hopened
  obtain ⟨rfl, hanswer⟩ := Program.last_exchange hopened
  replace hanswer : (Except.ok ((s.world.proxy.find? kind hash).map fun b =>
      (Reader.ofBytes b, Proxy.recordedSize hideSizes b)) : GetAnswer) = .ok (some (body, n)) :=
    eq_of_heq hanswer
  rw [hproxy] at hanswer
  obtain ⟨rfl, -⟩ := Prod.mk.inj (Option.some.inj (Except.ok.inj hanswer))
  exact Cache.eq_of_verify_ofBytes hlength hverify

/-- A task that was only just started fills in nothing. -/
theorem not_filling_ofJob {job : Job} {next : Unit → Operation job.Result}
    (hof : job.Of kind hash) (hfollows : Follows (.ofJob job)) :
    (Task.ofJob job).rest ≠ some (.step (.fill path blob) next) := by
  intro hrest
  obtain ⟨_, _, _, _, hopened, -⟩ := opened_of_fill hof hfollows hrest
  exact nomatch hopened

theorem Renewed.fills_move (h : Renewed s₀ s kind hash path)
    {m : Move}
    (hof : ∀ t ∈ (s.move (withRecording hideSizes network) m).tasks, t.job.Of kind hash)
    (hfollows : ∀ t ∈ (s.move (withRecording hideSizes network) m).tasks, Follows t)
    (hfilling : (s.move (withRecording hideSizes network) m).Filling path blob) :
    Recent s₀ (s.move (withRecording hideSizes network) m) kind hash path blob := by
  have hkept : s.Filling path blob →
      Recent s₀ (s.move (withRecording hideSizes network) m) kind hash path blob :=
    fun hfilling => (h.fills blob hfilling).move m
  obtain ⟨pending, hproxy, hlength, hstored⟩ := h.proxy
  have hgiven : blob = pending →
      Recent s₀ (s.move (withRecording hideSizes network) m) kind hash path blob :=
    fun heq => .inl (heq ▸ hstored.move m)
  obtain ⟨t', ht', more, hrest⟩ := hfilling
  have hmoved : Moved (withRecording hideSizes network) s m
      (s.move (withRecording hideSizes network) m) := s.moved m
  generalize s.move (withRecording hideSizes network) m = s'
    at hmoved hof hfollows ht' hkept hgiven ⊢
  cases hmoved with
  | started job =>
    rcases List.mem_append.1 ht' with hmem | hmem
    · exact hkept ⟨t', hmem, more, hrest⟩
    · obtain rfl := List.mem_singleton.1 hmem
      exact absurd hrest (not_filling_ofJob (hof _ ht') (hfollows _ ht'))
  | unmoved => exact hkept ⟨t', ht', more, hrest⟩
  | advanced i t action next ht hrest' =>
    rcases List.mem_or_eq_of_mem_set ht' with hmem | rfl
    · exact hkept ⟨t', hmem, more, hrest⟩
    · exact hgiven (eq_of_filling hproxy hlength (hof _ ht') (hfollows _ ht') rfl hrest)
  | dropped i t op ht hrest' =>
    rcases List.mem_or_eq_of_mem_set ht' with hmem | rfl
    · exact hkept ⟨t', hmem, more, hrest⟩
    · exact nomatch hrest

theorem Renewed.lookups_move (h : Renewed s₀ s kind hash path) (m : Move) {i : Nat} {t : Task}
    (hi : s₀.tasks.length ≤ i)
    (ht : (s.move (withRecording hideSizes network) m).tasks[i]? = some t) {found : Option Bytes}
    (hmem : ⟨.lookup path, found⟩ ∈ t.history) :
    ∃ blob, found = some blob ∧ Recent s₀ s kind hash path blob := by
  have hmoved : Moved (withRecording hideSizes network) s m
      (s.move (withRecording hideSizes network) m) := s.moved m
  generalize s.move (withRecording hideSizes network) m = s' at hmoved ht
  cases hmoved with
  | started job =>
    rw [List.getElem?_append] at ht
    split at ht
    · exact h.lookups i t hi ht found hmem
    · obtain rfl := List.mem_singleton.1 (List.mem_of_getElem? ht)
      exact nomatch hmem
  | unmoved => exact h.lookups i t hi ht found hmem
  | advanced j u action next hu hrest =>
    by_cases hj : j = i
    · subst hj
      obtain ⟨hlt, -⟩ := List.getElem?_eq_some_iff.1 hu
      obtain rfl := Option.some.inj ((List.getElem?_set_self hlt).symm.trans ht)
      rcases List.mem_append.1 hmem with hmem | hmem
      · exact h.lookups j u hi hu found hmem
      · obtain ⟨rfl, hfound⟩ := Sigma.mk.inj (List.mem_singleton.1 hmem)
        obtain ⟨blob, hentry, hrecent⟩ := h.entry
        replace hfound : found = (s.world.store.lookup path).1 := eq_of_heq hfound
        exact ⟨blob, (hfound.trans (Store.answer_lookup ..)).trans hentry, hrecent⟩
    · exact h.lookups i t hi ((List.getElem?_set_ne hj).symm.trans ht) found hmem
  | dropped j u op hu hrest =>
    by_cases hj : j = i
    · subst hj
      obtain ⟨hlt, -⟩ := List.getElem?_eq_some_iff.1 hu
      obtain rfl := Option.some.inj ((List.getElem?_set_self hlt).symm.trans ht)
      exact h.lookups j u hi hu found hmem
    · exact h.lookups i t hi ((List.getElem?_set_ne hj).symm.trans ht) found hmem

/-- What is so in each run of puts and gets of one entry. -/
structure Using (kind : EntryKind) (hash : String) (s : Service π ν) : Prop where
  jobs : ∀ t ∈ s.tasks, t.job.Of kind hash
  follows : ∀ t ∈ s.tasks, Follows t

theorem run_using {w : World π ν} {moves : List Move}
    (hjobs : ∀ job, .start job ∈ moves → job.Of kind hash) :
    Using kind hash ((idle w).run out moves) :=
  ⟨fun _ ht => hjobs _ (start_mem_of_mem ht), run_follows moves w⟩

theorem Renewed.move (h : Renewed s₀ s kind hash path) (m : Move) (hs : Using kind hash s)
    (hs' : Using kind hash (s.move (withRecording hideSizes network) m)) :
    Renewed s₀ (s.move (withRecording hideSizes network) m) kind hash path := by
  refine ⟨fun i u hu => (h.since i u hu).move m, ?_, ?_, fun _ hfilling => ?_,
    fun i t hi ht found hmem => ?_⟩
  · have hrewritten : Rewritten s path m
        ((s.move (withRecording hideSizes network) m).entryAt path) := s.rewritten m path
    generalize (s.move (withRecording hideSizes network) m).entryAt path = entry at hrewritten
    cases hrewritten with
    | kept =>
      obtain ⟨blob, hentry, hrecent⟩ := h.entry
      exact ⟨blob, hentry, hrecent.move m⟩
    | stored i t u next ht hrest =>
      have htask := List.mem_of_getElem? ht
      exact ⟨u.blob, rfl, .inl
        (storedSince_of_finish h.since ht (hs.jobs t htask) (hs.follows t htask) hrest)⟩
    | filled i t blob next ht hrest =>
      have hfilling : s.Filling path blob := ⟨t, List.mem_of_getElem? ht, next, hrest⟩
      exact ⟨blob, rfl, (h.fills blob hfilling).move _⟩
  · have hretold : Retold s kind hash m
        ((s.move (withRecording hideSizes network) m).world.proxy.find? kind hash) :=
      s.retold m kind hash
    generalize (s.move (withRecording hideSizes network) m).world.proxy.find? kind hash = held
      at hretold
    cases hretold with
    | kept =>
      obtain ⟨blob, hheld, hlength, hstored⟩ := h.proxy
      exact ⟨blob, hheld, hlength, hstored.move m⟩
    | told i t p u next ht hrest =>
      have htask := List.mem_of_getElem? ht
      obtain ⟨-, hlength, -⟩ := upload_of_finish (hs.jobs t htask) (hs.follows t htask) hrest
      exact ⟨u.blob, rfl, hlength,
        storedSince_of_finish h.since ht (hs.jobs t htask) (hs.follows t htask) hrest⟩
  · exact h.fills_move hs'.jobs hs'.follows hfilling
  · obtain ⟨blob, hfound, hrecent⟩ := h.lookups_move m hi ht hmem
    exact ⟨blob, hfound, hrecent.move m⟩

/-- A put of an entry that does not go by its digest is through by storing its blob. -/
theorem finish_of_ok {s : Service π ν} {i : Nat} {history : List Action.interface.Exchange}
    {rest : Option (Operation (Except CacheError Unit))} (hkind : kind ≠ .cas)
    (hfollows : ∀ t ∈ (s.move out (.advance i)).tasks, Follows t)
    (ht : s.tasks[i]? = some ⟨.put kind hasher hash size body, history, rest⟩)
    (hpending : Task.isOver ⟨.put kind hasher hash size body, history, rest⟩ = false)
    (hdone : (s.move out (.advance i)).tasks[i]?.bind Task.putResult? = some (.ok ())) :
    ∃ blob next, rest =
        some (.step (.finish (Entry.blobPath kind hasher hash) (some ⟨kind, hash, blob⟩)) next) ∧
      next () = .done (.ok ()) := by
  obtain ⟨action, next, rfl, hnext, hstored⟩ := stored_of_ended hfollows ht hpending hdone
  generalize heq : history ++ [⟨action, (action.perform out s.world).1⟩] = t at hstored
  cases hstored with
  | empty => exact absurd heq (by simp)
  | present =>
    -- Nobody is told of an entry that is there but who puts a blob under its digest.
    replace heq : history ++ [_] = [] ++ [_] := heq
    obtain ⟨rfl, hanswer⟩ := Program.last_exchange heq
    replace hanswer : (s.world.store.begin _ (kind = .cas)).1 = .present := eq_of_heq hanswer
    rw [decide_eq_false hkind] at hanswer
    exact absurd hanswer (Store.not_present _ _)
  | stored blob =>
    replace heq : history ++ [_] = [_] ++ [_] := heq
    obtain ⟨rfl, -⟩ := Program.last_exchange heq
    exact ⟨blob, next, rfl, hnext⟩

theorem renewed_of_put {i : Nat} {history : List Action.interface.Exchange}
    {rest : Option (Operation (Except CacheError Unit))} (hkind : kind ≠ .cas)
    (hs : Using kind hash s)
    (hs' : Using kind hash (s.move (withRecording hideSizes network) (.advance i)))
    (ht : s.tasks[i]? = some ⟨.put kind hasher hash size body, history, rest⟩)
    (hpending : Task.isOver ⟨.put kind hasher hash size body, history, rest⟩ = false)
    (hdone : (s.move (withRecording hideSizes network) (.advance i)).tasks[i]?.bind
      Task.putResult? = some (.ok ())) :
    Renewed s (s.move (withRecording hideSizes network) (.advance i)) kind hash
      (Entry.blobPath kind hasher hash) := by
  obtain ⟨blob, next, rfl, hnext⟩ := finish_of_ok hkind hs'.follows ht hpending hdone
  have htask := List.mem_of_getElem? ht
  obtain ⟨-, hlength, -⟩ := upload_of_finish (hs.jobs _ htask) (hs.follows _ htask) rfl
  have hstored : StoredSince s (s.move (withRecording hideSizes network) (.advance i))
      ⟨kind, hash, blob⟩ :=
    storedSince_of_finish (fun _ _ h => h) ht (hs.jobs _ htask) (hs.follows _ htask) rfl
  refine ⟨fun j u h => h.move _, ⟨blob, ?_, .inl hstored⟩, ⟨blob, ?_, hlength, hstored⟩, ?_, ?_⟩
  · rw [move_advance ht rfl]
    exact EntryMap.find?_insert_self ..
  · rw [move_advance ht rfl]
    exact (find?_seed ..).trans (if_pos rfl)
  · rintro b ⟨t, hmem, more, hrest⟩
    rw [move_advance ht rfl] at hmem
    rcases List.mem_or_eq_of_mem_set hmem with hmem | rfl
    · exact .inr ⟨t, hmem, more, hrest⟩
    · exact nomatch (congrArg some hnext).symm.trans hrest
  · intro j t hj htj
    rw [move_advance ht rfl] at htj
    obtain ⟨hlt, -⟩ := List.getElem?_eq_some_iff.1 htj
    dsimp only at hlt
    rw [List.length_set] at hlt
    omega

theorem Renewed.run {moves : List Move} (h : Renewed s₀ s kind hash path)
    (husing : ∀ before after, moves = before ++ after →
      Using kind hash (s.run (withRecording hideSizes network) before)) :
    Renewed s₀ (s.run (withRecording hideSizes network) moves) kind hash path := by
  refine run_induction (motive := fun s => Renewed s₀ s kind hash path) h
    fun before m after heq h => ?_
  have hnext := husing (before ++ [m]) after (by rw [heq, List.append_assoc]; rfl)
  rw [run_append] at hnext
  exact h.move m (husing before (m :: after) heq) hnext

/-- Moves that go on where a put has just ended make one run with those before it. -/
theorem run_after_put {w : World Proxy.Recording ν} {before : List Move} {p : Nat}
    {s₁ : Service Proxy.Recording ν}
    (hs₀ : s₀ = (idle w).run (withRecording hideSizes network) before)
    (hs₁ : s₁ = s₀.move (withRecording hideSizes network) (.advance p)) (after : List Move) :
    s₁.run (withRecording hideSizes network) after =
      (idle w).run (withRecording hideSizes network) (before ++ .advance p :: after) := by
  rw [run_append, ← hs₀, hs₁]
  rfl

/-- All under the path of an entry is renewed with a put of it, and stays so. -/
theorem renewed_after_put {w : World Proxy.Recording ν} {before after : List Move} {p : Nat}
    {s₁ : Service Proxy.Recording ν} (hkind : kind ≠ .cas)
    (hjobs : ∀ job, .start job ∈ before ++ after → job.Of kind hash)
    (hs₀ : s₀ = (idle w).run (withRecording hideSizes network) before)
    (hs₁ : s₁ = s₀.move (withRecording hideSizes network) (.advance p))
    (hput : (before.filterMap Move.job?)[p]? = some (.put kind hasher hash size body))
    (hpending : s₀.tasks[p]?.map Task.isOver = some false)
    (hdone : s₁.tasks[p]?.bind Task.putResult? = some (.ok ())) :
    Renewed s₀ (s₁.run (withRecording hideSizes network) after) kind hash
      (Entry.blobPath kind hasher hash) := by
  have husing : ∀ mid later, after = mid ++ later →
      Using kind hash (s₁.run (withRecording hideSizes network) mid) := by
    intro mid later heq
    rw [run_after_put hs₀ hs₁]
    refine run_using fun job hjob => hjobs job ?_
    rcases List.mem_append.1 hjob with hmem | hmem
    · exact List.mem_append_left _ hmem
    · rcases List.mem_cons.1 hmem with hmem | hmem
      · exact nomatch hmem
      · exact List.mem_append_right _ (heq ▸ List.mem_append_left _ hmem)
  have hs₀' : Using kind hash s₀ := hs₀ ▸ run_using fun job hjob =>
    hjobs job (List.mem_append_left _ hjob)
  obtain ⟨⟨job, history, rest⟩, ht, hpending⟩ := Option.map_eq_some_iff.1 hpending
  obtain rfl : job = .put kind hasher hash size body := job_of_run hput (hs₀ ▸ ht)
  have hfirst : Renewed s₀ s₁ kind hash (Entry.blobPath kind hasher hash) :=
    hs₁ ▸ renewed_of_put hkind hs₀' (hs₁ ▸ husing [] after rfl) ht hpending (hs₁ ▸ hdone)
  exact hfirst.run husing

/-- What a finished get gives that has not missed its entry. -/
theorem answer_of_lookups {history : List Action.interface.Exchange} {answer : GetAnswer}
    {good : Bytes → Prop} (hkind : kind ≠ .cas)
    (hleads : (Cache.get kind hasher hash none 0).Leads history answer)
    (hlookups : ∀ found : Option Bytes,
      ⟨.lookup (Entry.blobPath kind hasher hash), found⟩ ∈ history →
        ∃ blob, found = some blob ∧ good blob) :
    ∃ blob, answer = .ok (some (.ofBytes blob, .known blob.length)) ∧ good blob := by
  obtain ⟨result, hfound, rfl⟩ := Cache.get_leads hleads
  cases hfound with
  | empty hempty => simp [Cache.isEmptyBlob, hkind] at hempty
  | stored blob =>
    obtain ⟨blob', hblob, hgood⟩ := hlookups (some blob) List.mem_cons_self
    obtain rfl : blob = blob' := Option.some.inj hblob
    exact ⟨blob, by simp [Cache.delivered, Cache.serve, Cache.fits], hgood⟩
  | _ =>
    obtain ⟨blob, hblob, -⟩ := hlookups none List.mem_cons_self
    cases hblob

/-- What a get gives that is started after a put of its entry is through: what was stored with that
put or since, or what was being filled in just then. -/
theorem get_after_put (hideSizes : Bool) (network : Network ν) (w : World Proxy.Recording ν)
    (before after : List Move) (p g : Nat) {hasher' : Hasher} {answer : GetAnswer}
    {s₁ : Service Proxy.Recording ν} (hkind : kind ≠ .cas)
    (hjobs : ∀ job, .start job ∈ before ++ after → job.Of kind hash)
    (hs₀ : s₀ = (idle w).run (withRecording hideSizes network) before)
    (hs₁ : s₁ = s₀.move (withRecording hideSizes network) (.advance p))
    (hs : s = s₁.run (withRecording hideSizes network) after)
    (hput : (before.filterMap Move.job?)[p]? = some (.put kind hasher hash size body))
    (hpending : s₀.tasks[p]?.map Task.isOver = some false)
    (hdone : s₁.tasks[p]?.bind Task.putResult? = some (.ok ()))
    (hget : ((before ++ after).filterMap Move.job?)[g]? = some (.get kind hasher' hash none 0))
    (hpath : Entry.blobPath kind hasher' hash = Entry.blobPath kind hasher hash)
    (hstart : s₀.tasks.length ≤ g)
    (hanswer : s.tasks[g]?.bind Task.getAnswer? = some answer) :
    ∃ blob, answer = .ok (some (.ofBytes blob, .known blob.length)) ∧
      Recent s₀ s kind hash (Entry.blobPath kind hasher hash) blob := by
  have hrenewed : Renewed s₀ s kind hash (Entry.blobPath kind hasher hash) :=
    hs ▸ renewed_after_put hkind hjobs hs₀ hs₁ hput hpending hdone
  have hrun : s = (idle w).run (withRecording hideSizes network) (before ++ .advance p :: after) :=
    hs.trans (run_after_put hs₀ hs₁ after)
  -- So the get, that was started since, has found a renewed entry.
  obtain ⟨⟨job, history, rest⟩, ht, hanswer⟩ := Option.bind_eq_some_iff.1 hanswer
  have hget' : ((before ++ .advance p :: after).filterMap Move.job?)[g]? =
      some (.get kind hasher' hash none 0) := by
    rw [List.filterMap_append, List.filterMap_cons_none rfl, ← List.filterMap_append]
    exact hget
  obtain rfl : job = .get kind hasher' hash none 0 := job_of_run hget' (hrun ▸ ht)
  rcases rest with _ | (given | _)
  · exact nomatch hanswer
  · obtain rfl : given = answer := Option.some.inj hanswer
    have hmem : .finished (.get kind hasher' hash none 0) history given ∈
        ((idle w).run (withRecording hideSizes network) (before ++ .advance p :: after)).tasks :=
      hrun ▸ List.mem_of_getElem? ht
    refine answer_of_lookups hkind (run_leads hmem) ?_
    rw [hpath]
    exact hrenewed.lookups g _ hstart ht
  · exact nomatch hanswer

/-- A get has missed the entry and was given "old" by the proxy.  Then "new" is put, and then the
get stores what it was given: who asks from now on is given "old". -/
theorem put_undone_by_fill :
    let h : Hasher := .ofAlgorithm .sha256 .sha256
    let old : Bytes := [111, 108, 100]
    let new : Bytes := [110, 101, 119]
    let key := Entry.blobPath .raw h "k"
    let w : World Proxy.Recording Unit := ⟨.empty, .seed .empty .raw "k" old, (), []⟩
    let before : List Move :=
      [.start (.get .raw h "k" none 0), .advance 0, .advance 0,
        .start (.put .raw h "k" 3 (.ofBytes new)), .advance 1]
    let after : List Move := [.advance 0, .start (.get .raw h "k" none 0), .advance 2]
    let s₀ := (idle w).run (withRecording false .down) before
    let s₁ := s₀.move (withRecording false .down) (.advance 1)
    let s := s₁.run (withRecording false .down) after
    let answer : GetAnswer := .ok (some (.ofBytes old, .known 3))
    (EntryKind.raw ≠ .cas ∧ (∀ job, .start job ∈ before ++ after → job.Of .raw "k") ∧
      (before.filterMap Move.job?)[1]? = some (.put .raw h "k" 3 (.ofBytes new)) ∧
      s₀.tasks[1]?.map Task.isOver = some false ∧
      s₁.tasks[1]?.bind Task.putResult? = some (.ok ()) ∧
      ((before ++ after).filterMap Move.job?)[2]? = some (.get .raw h "k" none 0) ∧
      s₀.tasks.length ≤ 2 ∧ s.tasks[2]?.bind Task.getAnswer? = some answer) ∧
    s₁.entryAt key = some new ∧
    ∃ blob, answer = .ok (some (.ofBytes blob, .known blob.length)) ∧
      Recent s₀ s .raw "k" key blob := by
  intro h old new key w before after s₀ s₁ s answer
  have hjobs : ∀ job, .start job ∈ before ++ after → job.Of .raw "k" := by
    intro job hjob
    simp only [before, after, List.cons_append, List.nil_append, List.mem_cons, Move.start.injEq,
      reduceCtorEq, List.not_mem_nil, or_false, false_or] at hjob
    rcases hjob with rfl | rfl | rfl
    · exact ⟨rfl, rfl⟩
    · exact ⟨rfl, rfl, by decide⟩
    · exact ⟨rfl, rfl⟩
  have hpending : s₀.tasks[1]?.map Task.isOver = some false := by decide +kernel
  have hdone : s₁.tasks[1]?.bind Task.putResult? = some (.ok ()) := by decide +kernel
  have hstart : s₀.tasks.length ≤ 2 := by decide +kernel
  have hanswer : s.tasks[2]?.bind Task.getAnswer? = some answer := by decide +kernel
  exact ⟨⟨nofun, hjobs, rfl, hpending, hdone, rfl, hstart, hanswer⟩, by decide +kernel,
    get_after_put false .down w before after 1 2 nofun hjobs rfl rfl rfl rfl hpending hdone rfl rfl
      hstart hanswer⟩

/-- With no two jobs at once: a get through one hasher stores "old" under a path of its own, which a
put of "new" through another hasher leaves as it is. -/
theorem put_unseen_through_other_hasher :
    let h : Hasher := .ofAlgorithm .sha256 .sha256
    let h' : Hasher := .ofAlgorithm .blake3 .blake3
    let old : Bytes := [111, 108, 100]
    let new : Bytes := [110, 101, 119]
    let w : World Proxy.Recording Unit := ⟨.empty, .empty, (), []⟩
    let put (i : Nat) (blob : Bytes) : List Move :=
      [.start (.put .raw h "k" 3 (.ofBytes blob)), .advance i, .advance i]
    let get (i : Nat) : List Move :=
      [.start (.get .raw h' "k" none 0), .advance i, .advance i, .advance i, .advance i]
    let s := (idle w).run (withRecording false .down) (put 0 old ++ get 1 ++ put 2 new)
    s.tasks[2]?.bind Task.putResult? = some (.ok ()) ∧ s.world.proxy.find? .raw "k" = some new ∧
    (s.run (withRecording false .down) (get 3)).tasks[3]?.bind Task.getAnswer? =
      some (.ok (some (.ofBytes old, .known 3))) := by
  decide +kernel

end Service

end AssetCache
