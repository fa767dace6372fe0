import AssetCache.Proofs.Service.Entries
import AssetCache.Proofs.Service.Integrity
import AssetCache.Proofs.Service.Marks
import AssetCache.Proofs.Service.Turns

/-!
# Under which digests entries are kept

A put takes an entry of the action cache under a digest that is well formed, and an empty one under
the digest of the empty blob only.  A get fills in what the proxy gives under whatever hash it was
asked for.  So the hash of an entry is one that a put would take, unless the proxy gave the entry.

Results:
1. `Cache.entry_of_given`: a get keeps what the proxy gives it, under whatever hash.
2. `Job.justified`: what a job stores, a put takes under that name, or the proxy gave it for that
   name.
3. `Service.admitted_unless_filled`: so each entry of the action cache is one that a put would take,
   or was filled in.
4. `Service.filled_under_no_digest`: one that was filled in may be under what is no digest, and an
   empty one under the digest of another blob.
-/

namespace AssetCache

variable {H : List Hasher} {π ν : Type} {out : Surroundings π ν} {path : String} {blob : Bytes}
  {n : EntryName} {t t₁ t₂ : List Action.interface.Exchange}

/-! ## Why a blob is stored -/

/-- A step leaves this blob under this path. -/
inductive Action.Leaves (path : String) (blob : Bytes) : Action → Prop
  | finish (kind : EntryKind) (hash : String) :
    Leaves path blob (.finish path (some ⟨kind, hash, blob⟩))
  | fill : Leaves path blob (.fill path blob)

/-- Whether a put takes a blob of this size under a name. -/
def EntryName.Takes (n : EntryName) (size : Nat) : Prop :=
  Cache.validate n.kind n.hasher n.hash size = .ok ()

theorem EntryName.takes_ac (hasher : Hasher) (hash : String) (size : Nat) :
    EntryName.Takes ⟨.ac, hasher, hash⟩ size ↔ hasher.validateDigest hash size = .ok () := by
  unfold Takes Cache.validate
  dsimp only
  cases hasher.validateDigest hash size with
  | ok => simp
  | error e => simp

/-- The proxy has given a blob for this entry, and it was filled in. -/
inductive FilledIn (t : List Action.interface.Exchange) (n : EntryName) (blob : Bytes) : Prop
  | intro (size : Option Nat) (body : Reader) (total : BlobSize)
    (hgiven : ⟨.openProxy n.kind n.hash size, .ok (some (body, total))⟩ ∈ t)
    (hverify : Cache.verify n.kind n.hasher n.hash (total.known?.or size) body = .ok blob)
    (hfilled : ⟨.fill n.path blob, ()⟩ ∈ t)

theorem FilledIn.mono {t' : List Action.interface.Exchange} (h : FilledIn t n blob)
    (ht : t ⊆ t') : FilledIn t' n blob := by
  obtain ⟨size, body, total, hgiven, hverify, hfilled⟩ := h
  exact ⟨size, body, total, ht hgiven, hverify, ht hfilled⟩

/-- A put would take the blob under the name, or by this history it was filled in. -/
def Justified (t : List Action.interface.Exchange) (n : EntryName) (blob : Bytes) : Prop :=
  n.Takes blob.length ∨ FilledIn t n blob

theorem Justified.mono {t' : List Action.interface.Exchange} (h : Justified t n blob)
    (ht : t ⊆ t') : Justified t' n blob :=
  h.imp_right (·.mono ht)

/-! ## Operations of the cache -/

namespace Cache

variable {kind : EntryKind} {hasher : Hasher} {hash : String} {action : Action}
  {answer : action.Answer}

/-- A put does nothing under a digest that it does not take. -/
theorem validate_of_stored {size : Nat} {body : Reader} {result : Except CacheError Unit}
    (h : Stored kind hasher hash size body t result) (hne : t ≠ []) :
    validate kind hasher hash size = .ok () := by
  cases h with
  | invalid => exact absurd rfl hne
  | empty => exact absurd rfl hne
  | present hvalidate => exact hvalidate
  | busy hvalidate => exact hvalidate
  | rejected _ hvalidate => exact hvalidate
  | stored _ hvalidate => exact hvalidate

theorem takes_of_stored {size : Nat} {body : Reader} {result : Except CacheError Unit}
    (h : Stored kind hasher hash size body (t₁ ++ ⟨action, answer⟩ :: t₂) result)
    (hleaves : action.Leaves path blob) :
    EntryName.path ⟨kind, hasher, hash⟩ = path ∧
      EntryName.Takes ⟨kind, hasher, hash⟩ blob.length := by
  cases hleaves with
  | finish k x =>
    obtain ⟨rfl, -, -, hlanding⟩ := landing_of_stored h
    have hvalid : validate kind hasher hash size = .ok () := validate_of_stored h (by simp)
    cases hlanding with
    | stored _ hverify =>
      obtain ⟨hlength, -⟩ := length_of_readSized (readSized_of_verify hverify)
      exact ⟨rfl, hlength ▸ hvalid⟩
  | fill =>
    exact absurd trivial
      (not_fills_of_stored h _ (List.mem_append_right _ List.mem_cons_self))

theorem filledIn_of_found {size : Option Nat} {result : Except CacheError (Option Bytes)}
    (h : Found kind hasher hash size (t₁ ++ ⟨action, answer⟩ :: t₂) result)
    (hleaves : action.Leaves path blob) :
    EntryName.path ⟨kind, hasher, hash⟩ = path ∧
      FilledIn (t₁ ++ [⟨action, answer⟩]) ⟨kind, hasher, hash⟩ blob := by
  cases hleaves with
  | finish k x =>
    exact (unmarked_of_found h _ (List.mem_append_right _ List.mem_cons_self)).elim
  | fill =>
    obtain ⟨body, total, rfl, rfl, hverify⟩ := opened_of_found h
    exact ⟨rfl, size, body, total, by simp, hverify, List.mem_append_right _ List.mem_cons_self⟩

theorem not_leaves_of_told {size : Option Nat} {found : Option BlobSize}
    (h : Told kind hasher hash size t found) : ∀ e ∈ t, ¬ Action.Leaves path blob e.1 := by
  cases h with
  | empty => exact fun _ he => nomatch he
  | stored => exact List.forall_mem_singleton.2 nofun
  | asked => exact List.forall_mem_cons.2 ⟨nofun, List.forall_mem_singleton.2 nofun⟩

/-- A get keeps what the proxy gives it, be it under a name that a put takes or not. -/
theorem entry_of_given {w : World π ν} {size : Option Nat} {offset : Nat} {body : Reader}
    {total : BlobSize} (hempty : isEmptyBlob kind hasher hash = false)
    (habsent : w.store.entries.find? (Entry.blobPath kind hasher hash) = none)
    (hgiven : (out.proxy.get kind hash size w.proxy).1 = .ok (some (body, total)))
    (hverify : verify kind hasher hash (total.known?.or size) body = .ok blob) :
    ((get kind hasher hash size offset).run out w).2.store.entries.find?
      (Entry.blobPath kind hasher hash) = some blob := by
  obtain ⟨t, hallows, hleads, hafter⟩ :=
    Operation.exists_history out (get kind hasher hash size offset) w
  obtain ⟨_, hfound, -⟩ := get_leads hleads
  obtain ⟨-, rfl⟩ := history_of_given hallows hfound hempty habsent hgiven hverify
  rw [← hafter]
  exact EntryMap.find?_insert_self ..

end Cache

/-! ## Jobs -/

theorem Request.justified (c : Request.Call) {action : Action} {answer : action.Answer}
    {result : c.Answer} (hallows : (within H).allows c) (hleaves : action.Leaves path blob)
    (h : (Request.implement c).Leads (t₁ ++ ⟨action, answer⟩ :: t₂) result) :
    ∃ n : EntryName, n.hasher ∈ H ∧ n.path = path ∧
      Justified (t₁ ++ [⟨action, answer⟩]) n blob := by
  have hmem : (⟨action, answer⟩ : Action.interface.Exchange) ∈ t₁ ++ ⟨action, answer⟩ :: t₂ :=
    List.mem_append_right _ List.mem_cons_self
  cases c with
  | contains kind hasher hash size =>
    exact absurd hleaves (Cache.not_leaves_of_told (Cache.contains_leads h) _ hmem)
  | get kind hasher hash size offset =>
    obtain ⟨_, hfound, -⟩ := Cache.get_leads h
    obtain ⟨hpath, hfilled⟩ := Cache.filledIn_of_found hfound hleaves
    exact ⟨⟨kind, hasher, hash⟩, hallows, hpath, .inr hfilled⟩
  | put kind hasher hash size body =>
    obtain ⟨hpath, htakes⟩ := Cache.takes_of_stored (Cache.put_leads.1 h) hleaves
    exact ⟨⟨kind, hasher, hash⟩, hallows, hpath, .inl htakes⟩
  | fetch address =>
    obtain ⟨_, _, heq, rfl, -⟩ := h
    cases List.mem_singleton.1 (heq ▸ hmem)
    exact nomatch hleaves
  | log event =>
    obtain ⟨_, _, heq, rfl, -⟩ := h
    cases List.mem_singleton.1 (heq ▸ hmem)
    exact nomatch hleaves

namespace Job

theorem resolution_keeps (job : Job) (hmem : ∀ h ∈ job.hashers, h ∈ H) :
    job.resolution.Keeps (within H) fun _ => True := by
  cases job with
  | put => exact ⟨hmem _ List.mem_cons_self, fun _ _ => trivial⟩
  | get => exact ⟨hmem _ List.mem_cons_self, fun _ _ => trivial⟩
  | contains => exact ⟨hmem _ List.mem_cons_self, fun _ _ => trivial⟩
  | fetchBlob resolver request => exact Resolver.fetchBlob_keeps hmem request

/-- A blob that a job leaves under a path, it leaves under a name with one of its hashers. -/
theorem justified (job : Job) (hmem : ∀ h ∈ job.hashers, h ∈ H) {action : Action}
    {answer : action.Answer} {result : job.Result} (hleaves : action.Leaves path blob)
    (h : job.operation.Leads (t₁ ++ ⟨action, answer⟩ :: t₂) result) :
    ∃ n : EntryName, n.hasher ∈ H ∧ n.path = path ∧
      Justified (t₁ ++ [⟨action, answer⟩]) n blob := by
  rw [operation_eq] at h
  obtain ⟨c, result', earlier, v₁, v₂, hallows, rfl, hleads⟩ :=
    Program.exists_call_of_expand (fun _ _ _ _ => trivial) (job.resolution_keeps hmem) h
  obtain ⟨n, hn, hpath, hjustified⟩ := Request.justified c hallows hleaves hleads
  refine ⟨n, hn, hpath, hjustified.mono fun e he => ?_⟩
  rw [List.append_assoc]
  exact List.mem_append_right _ he

end Job

/-! ## Runs -/

namespace Service

/-- One of the tasks has filled in this entry. -/
def HasFilledIn (s : Service π ν) (n : EntryName) (blob : Bytes) : Prop :=
  ∃ t ∈ s.tasks, FilledIn t.history n blob

theorem HasFilledIn.move {s : Service π ν} (h : s.HasFilledIn n blob) (m : Move) :
    (s.move out m).HasFilledIn n blob := by
  obtain ⟨t, ht, hfilled⟩ := h
  obtain ⟨i, hi⟩ := List.mem_iff_getElem?.1 ht
  obtain ⟨t', ht', -, hhistory, -⟩ := exists_task_move s m hi
  exact ⟨t', List.mem_of_getElem? ht', hfilled.mono hhistory.subset⟩

/-- A put would take the blob of a path under a name with this path, or it was filled in. -/
def AccountsFor (H : List Hasher) (s : Service π ν) (path : String) (blob : Bytes) : Prop :=
  ∃ n : EntryName, n.hasher ∈ H ∧ n.path = path ∧ (n.Takes blob.length ∨ s.HasFilledIn n blob)

theorem AccountsFor.move {s : Service π ν} (h : AccountsFor H s path blob) (m : Move) :
    AccountsFor H (s.move out m) path blob := by
  obtain ⟨n, hn, hpath, hreason⟩ := h
  exact ⟨n, hn, hpath, hreason.imp_right (·.move m)⟩

theorem accountsFor_of_leaves {s : Service π ν} {i : Nat} {t : Task} {action : Action}
    {next : action.Answer → Operation t.job.Result} (hjob : ∀ h ∈ t.job.hashers, h ∈ H)
    (hfollows : Follows t) (ht : s.tasks[i]? = some t) (hrest : t.rest = some (.step action next))
    (hleaves : action.Leaves path blob) : AccountsFor H (s.move out (.advance i)) path blob := by
  obtain ⟨more, result, hleads⟩ := hfollows.leads_step hrest (action.perform out s.world).1
  obtain ⟨n, hn, hpath, hjustified⟩ := t.job.justified hjob hleaves hleads
  obtain ⟨hlt, -⟩ := List.getElem?_eq_some_iff.1 ht
  refine ⟨n, hn, hpath, hjustified.imp_right fun hfilled => ?_⟩
  rw [move_advance ht hrest]
  exact ⟨_, List.mem_of_getElem? (List.getElem?_set_self hlt), hfilled⟩

/-- All entries are accounted for. -/
def Accounted (H : List Hasher) (s : Service π ν) : Prop :=
  ∀ path blob, s.entryAt path = some blob → AccountsFor H s path blob

theorem Accounted.move {s : Service π ν} (h : Accounted H s) (m : Move)
    (hjobs : ∀ t ∈ s.tasks, ∀ h ∈ t.job.hashers, h ∈ H) (hfollows : ∀ t ∈ s.tasks, Follows t) :
    Accounted H (s.move out m) := by
  intro path blob hentry
  have hrewritten : Rewritten s path m ((s.move out m).entryAt path) := s.rewritten m path
  rw [hentry] at hrewritten
  generalize hb : some blob = entry at hrewritten
  cases hrewritten with
  | kept => exact (h path blob hb.symm).move m
  | stored i t u next ht hrest =>
    have htask := List.mem_of_getElem? ht
    obtain rfl := Option.some.inj hb
    exact accountsFor_of_leaves (hjobs t htask) (hfollows t htask) ht hrest (.finish u.kind u.hash)
  | filled i t b next ht hrest =>
    have htask := List.mem_of_getElem? ht
    obtain rfl := Option.some.inj hb
    exact accountsFor_of_leaves (hjobs t htask) (hfollows t htask) ht hrest .fill

theorem run_accounted (out : Surroundings π ν) {w : World π ν} {moves : List Move}
    (hjobs : ∀ job, .start job ∈ moves → ∀ h ∈ job.hashers, h ∈ H)
    (hempty : w.store = Store.empty) : Accounted H ((idle w).run out moves) := by
  refine run_induction (fun path blob hentry => ?_) fun before m after heq h => ?_
  · have hnone : w.store.entries.find? path = none := by
      rw [hempty]
      rfl
    exact nomatch hnone.symm.trans hentry
  · refine h.move m (fun t ht => ?_) (run_follows before w)
    have hstart : .start t.job ∈ before := start_mem_of_mem ht
    exact hjobs _ (heq ▸ List.mem_append_left _ hstart)

/-- Each entry of the action cache is one that a put would take. -/
def Admitted (H : List Hasher) (s : Service π ν) : Prop :=
  ∀ h ∈ H, ∀ hash blob, s.entryAt (Entry.blobPath .ac h hash) = some blob →
    h.validateDigest hash blob.length = .ok ()

/-- After every run, each entry goes by a name under which a put would take it, or was filled in as
the proxy gave it.  So, where hashers keep their blobs apart, an entry of the action cache is one
that a put would take, unless it was filled in. -/
theorem admitted_unless_filled (out : Surroundings π ν) (w : World π ν) (moves : List Move)
    (hjobs : ∀ job, .start job ∈ moves → ∀ h ∈ job.hashers, h ∈ H)
    (hempty : w.store = Store.empty) :
    Accounted H ((idle w).run out moves) ∧
      (Separate H → ∀ h ∈ H, ∀ hash blob,
        ((idle w).run out moves).entryAt (Entry.blobPath .ac h hash) = some blob →
        h.validateDigest hash blob.length = .ok () ∨
          ((idle w).run out moves).HasFilledIn ⟨.ac, h, hash⟩ blob) := by
  have haccounted : Accounted H ((idle w).run out moves) := run_accounted out hjobs hempty
  refine ⟨haccounted, fun hsep h hh hash blob hentry => ?_⟩
  obtain ⟨n, hn, hpath, hreason⟩ := haccounted _ blob hentry
  obtain rfl : n = ⟨.ac, h, hash⟩ := EntryName.eq_of_path hsep hn hh hpath
  exact hreason.imp_left (EntryName.takes_ac h hash blob.length).1

/-- One entry is put, and one is filled in that the proxy has under what is no digest. -/
theorem admitted_unless_filled_of_put_and_get :
    let h : Hasher := .ofAlgorithm .sha256 .sha256
    let blob : Bytes := [97, 98, 99]
    let w : World Proxy.Recording Unit := ⟨.empty, .seed .empty .ac "not-hex" blob, (), []⟩
    let moves : List Move :=
      [.start (.put .ac h (h.hash blob) 3 (.ofBytes blob)), .start (.get .ac h "not-hex" none 0),
        .advance 1, .advance 0, .advance 1, .advance 0, .advance 1]
    let s := (idle w).run (withRecording false .down) moves
    ((∀ job, .start job ∈ moves → ∀ g ∈ job.hashers, g ∈ Registry.standard.hashers) ∧
      w.store = Store.empty ∧ Separate Registry.standard.hashers ∧
      s.entryAt (Entry.blobPath .ac h (h.hash blob)) = some blob ∧
      s.entryAt (Entry.blobPath .ac h "not-hex") = some blob) ∧
    (h.validateDigest (h.hash blob) blob.length = .ok () ∨
      s.HasFilledIn ⟨.ac, h, h.hash blob⟩ blob) ∧
    (h.validateDigest "not-hex" blob.length = .ok () ∨
      s.HasFilledIn ⟨.ac, h, "not-hex"⟩ blob) := by
  intro h blob w moves s
  have hmem : h ∈ Registry.standard.hashers := List.mem_cons_self
  have hjobs : ∀ job, .start job ∈ moves → ∀ g ∈ job.hashers, g ∈ Registry.standard.hashers := by
    intro job hjob g hg
    simp only [moves, List.mem_cons, Move.start.injEq, reduceCtorEq, List.not_mem_nil,
      or_false] at hjob
    obtain rfl : g = h := by
      rcases hjob with rfl | rfl <;> exact List.mem_singleton.1 hg
    exact hmem
  have hput : s.entryAt (Entry.blobPath .ac h (h.hash blob)) = some blob := by decide +kernel
  have hgot : s.entryAt (Entry.blobPath .ac h "not-hex") = some blob := by decide +kernel
  obtain ⟨-, hadmitted⟩ := admitted_unless_filled (withRecording false .down) w moves hjobs rfl
  exact ⟨⟨hjobs, rfl, separate_standard, hput, hgot⟩,
    hadmitted separate_standard h hmem _ _ hput, hadmitted separate_standard h hmem _ _ hgot⟩

/-- The proxy has an entry under what is no digest, and an empty one under the digest of another
blob.  Neither may be put; each is kept once it has been asked for. -/
theorem filled_under_no_digest :
    let h : Hasher := .ofAlgorithm .sha256 .sha256
    let blob : Bytes := [97, 98, 99]
    let after (hash : String) (blob : Bytes) : Service Proxy.Recording Unit :=
      (idle ⟨.empty, .seed .empty .ac hash blob, (), []⟩).run (withRecording false .down)
        [.start (.get .ac h hash none 0), .advance 0, .advance 0, .advance 0, .advance 0]
    ¬ Admitted [h] (after "not-hex" blob) ∧ ¬ Admitted [h] (after (h.hash blob) []) := by
  intro h blob after
  have hnot : ∀ hash blob, (after hash blob).entryAt (Entry.blobPath .ac h hash) = some blob →
      h.validateDigest hash blob.length ≠ .ok () → ¬ Admitted [h] (after hash blob) :=
    fun hash blob hentry hinvalid hadmitted =>
      hinvalid (hadmitted h List.mem_cons_self hash blob hentry)
  exact ⟨hnot _ _ (by decide +kernel) (by decide +kernel),
    hnot _ _ (by decide +kernel) (by decide +kernel)⟩

end Service

end AssetCache
