import AssetCache.Proofs.Asset.Steps
import AssetCache.Proofs.Service.Interleaving
import AssetCache.Proofs.Store.Integrity

/-!
# Integrity of the service

Any number of clients put and get entries, ask for them and have requests resolved, in any order of
their steps, over a proxy and a network that may answer anything.

Results:
1. `Resolver.fetchBlob_keeps`: requests are resolved with registered hashers only.
2. `Job.keeps`: each job keeps integrity, and is answered genuinely.
3. `service_integrity`: after every run, each blob in the store, each that the proxy was told of and
   each that a client was given has the digest that it goes by.
-/

namespace AssetCache

variable {H : List Hasher} {π ν : Type} {hasher : Hasher} {hash : String}

/-! ## Requests -/

/-- Ask for entries of hashers of `H` only; nothing is promised. -/
def within (H : List Hasher) : Contract Request.Call.interface where
  allows
    | .contains _ hasher _ _ => hasher ∈ H
    | .get _ hasher _ _ _ => hasher ∈ H
    | .put _ hasher _ _ _ => hasher ∈ H
    | .fetch _ => True
    | .log _ => True
  grants _ _ := True

theorem Request.implement_keeps (c : Request.Call)
    (hallows : (within H).allows c) :
    (Request.implement c).Keeps (integrity H) fun _ => True := by
  cases c with
  | contains kind hasher hash size => exact Cache.contains_keeps size
  | get kind hasher hash size offset =>
    exact (Cache.get_keeps hallows size offset).mono fun _ _ => trivial
  | put kind hasher hash size body => exact Cache.put_keeps hallows size body
  | fetch address => exact ⟨trivial, fun _ _ => trivial⟩
  | log event => exact ⟨trivial, fun _ _ => trivial⟩

namespace Resolver

variable {r : Resolver}

theorem lookup_keeps {e : Expected} (hmem : e.hasher ∈ H) :
    (lookup e).Keeps (within H) fun _ => True := by
  refine (Program.keeps_bind _ _).2 ⟨hmem, fun answer _ => ?_⟩
  rcases answer with _ | (size | _)
  · exact trivial
  · exact trivial
  · refine ⟨hmem, fun given _ => ?_⟩
    rcases given with cause | (_ | ⟨reader, size | _⟩)
    · exact trivial
    · exact trivial
    · exact trivial
    · exact trivial

theorem reportLookup_keeps (hash : String) (reason : SkipReason) :
    (reportLookup hash reason).Keeps (within H) fun _ => True := by
  cases reason with
  | miss => exact trivial
  | _ => exact ⟨trivial, fun _ _ => trivial⟩

theorem tryQualifiers_keeps (hreg : r.registry.hashers ⊆ H) (qualifiers : List Qualifier)
    {expected : Option Expected} (hexpected : ∀ e, expected = some e → e.hasher ∈ H) :
    (r.tryQualifiers expected qualifiers).Keeps (within H) fun result =>
      ∀ e, result = .inr (some e) → e.hasher ∈ H := by
  induction qualifiers generalizing expected with
  | nil => exact fun e h => hexpected e (Sum.inr.inj h)
  | cons q rest ih =>
    unfold tryQualifiers
    split
    · exact ih hexpected
    · split
      · exact ⟨trivial, fun _ _ => ih hexpected⟩
      next e hparse =>
        have hmem : e.hasher ∈ H := hreg (of_parseChecksum hparse).1
        refine (Program.keeps_bind _ _).2 ((lookup_keeps hmem).mono fun found _ => ?_)
        cases found with
        | ok size => exact ⟨trivial, fun _ _ _ h => nomatch h⟩
        | error reason =>
          exact (Program.keeps_bind _ _).2 ((reportLookup_keeps e.hash reason).mono fun _ _ =>
            ih fun e' h => Option.some.inj h ▸ hmem)

theorem store_keeps (hmem : hasher ∈ H) (size : Nat) (body : Reader) :
    (store hasher hash size body).Keeps (within H) fun _ => True := by
  refine (Program.keeps_bind _ _).2 ⟨hmem, fun answer _ => ?_⟩
  cases answer with
  | ok => exact trivial
  | error cause =>
    show Program.Keeps _ _ (if cause.isBenign then _ else _)
    split
    · exact ⟨trivial, fun _ _ => trivial⟩
    · exact trivial

theorem fetchUri_keeps (hmem : hasher ∈ H) (expectedHash : Option String) (uri : String) :
    (r.fetchUri hasher expectedHash uri).Keeps (within H) fun _ => True := by
  unfold fetchUri
  split
  · exact trivial
  · refine (Program.keeps_bind _ _).2 ⟨trivial, fun answer _ => ?_⟩
    cases answer with
    | error cause => exact trivial
    | ok fetched =>
      refine (Program.keeps_bind _ _).2 ⟨trivial, fun _ _ => ?_⟩
      split
      · exact trivial
      · split
        · exact trivial
        · exact store_keeps hmem _ _

theorem attemptUri_keeps {expected : Option Expected} {requested : Option Hasher}
    (hexpected : ∀ e, expected = some e → e.hasher ∈ H)
    (hrequested : ∀ h, requested = some h → h ∈ H) (uri : String) :
    (r.attemptUri expected requested uri).Keeps (within H) fun _ => True := by
  unfold attemptUri
  split
  · exact fetchUri_keeps (hexpected _ rfl) _ _
  · exact fetchUri_keeps (hrequested _ rfl) _ _
  · exact trivial

theorem tryUris_keeps {expected : Option Expected} {requested : Option Hasher}
    (hexpected : ∀ e, expected = some e → e.hasher ∈ H)
    (hrequested : ∀ h, requested = some h → h ∈ H) (uris : List String) :
    (r.tryUris expected requested uris).Keeps (within H) fun _ => True := by
  induction uris with
  | nil => exact trivial
  | cons uri rest ih =>
    refine (Program.keeps_bind _ _).2
      ((attemptUri_keeps hexpected hrequested uri).mono fun answer _ => ?_)
    cases answer with
    | ok d => exact trivial
    | error reason => exact ⟨trivial, fun _ _ => ih⟩

theorem requestHasher_keeps (hreg : r.registry.hashers ⊆ H) (function : DigestFunction) :
    (r.requestHasher function).Keeps (within H) fun hasher => ∀ h, hasher = some h → h ∈ H := by
  unfold requestHasher
  split
  next hget => exact fun _ h => Option.some.inj h ▸ hreg (Registry.mem_of_get hget)
  next => exact ⟨trivial, fun _ _ _ h => absurd h.symm (Option.some_ne_none _)⟩

theorem fetchBlob_keeps (hreg : r.registry.hashers ⊆ H) (request : Option FetchRequest) :
    (r.fetchBlob request).Keeps (within H) fun _ => True := by
  unfold fetchBlob
  split
  · exact trivial
  · split
    · exact trivial
    · refine (Program.keeps_bind _ _).2
        ((requestHasher_keeps hreg _).mono fun requested hrequested => ?_)
      have hnone : ∀ e, (none : Option Expected) = some e → e.hasher ∈ H := fun _ h => nomatch h
      refine (Program.keeps_bind _ _).2
        ((tryQualifiers_keeps hreg _ hnone).mono fun result hresult => ?_)
      cases result with
      | inl response => exact trivial
      | inr expected =>
        exact (Program.keeps_bind _ _).2
          ((tryUris_keeps (fun e h => hresult e (h ▸ rfl)) hrequested _).mono fun _ _ => trivial)

end Resolver

/-! ## Jobs -/

namespace Job

/-- A reader that a client is given for a blob from its beginning delivers what there is under the
digest that it asked for. -/
def Genuine (H : List Hasher) : (job : Job) → job.Result → Prop
  | .get .cas hasher hash _ 0, answer =>
    hasher ∈ H ∧ ∀ reader size, (answer : GetAnswer) = .ok (some (reader, size)) →
      ∃ blob, reader.readAll = .ok blob ∧ Offered H .cas hasher hash blob
  | _, _ => True

theorem keeps (job : Job) (hmem : ∀ h ∈ job.hashers, h ∈ H) :
    job.operation.Keeps (integrity H) (Genuine H job) := by
  cases job with
  | put kind hasher hash size body =>
    exact Cache.put_keeps (hmem _ List.mem_cons_self) size body
  | get kind hasher hash size offset =>
    have hhasher := hmem hasher List.mem_cons_self
    refine (Cache.get_keeps hhasher size offset).mono fun answer hanswer => ?_
    match kind, offset with
    | .cas, 0 => exact ⟨hhasher, hanswer rfl⟩
    | .cas, _ + 1 => exact trivial
    | .ac, _ => exact trivial
    | .raw, _ => exact trivial
  | contains kind hasher hash size => exact Cache.contains_keeps size
  | fetchBlob resolver request =>
    exact Program.Keeps.expand
      (fun c hc => (Request.implement_keeps c hc).mono fun _ _ => trivial)
      (Resolver.fetchBlob_keeps hmem request)

end Job

/-! ## Runs -/

/-- Every digest that blobs go by is their own. -/
structure Service.Intact (H : List Hasher) (s : Service π ν) : Prop where
  /-- In the store. -/
  entries : ∀ h ∈ H, ∀ hash blob,
    s.world.store.entries.find? (Entry.blobPath .cas h hash) = some blob → h.hash blob = hash
  /-- In what the proxy was told, which is told just of the uploads that end writes. -/
  uploads : ∀ t ∈ s.tasks, ∀ path upload, ⟨.finish path (some upload), ()⟩ ∈ t.history →
    upload.kind = .cas →
      ∃ h ∈ H, path = Entry.blobPath .cas h upload.hash ∧ h.hash upload.blob = upload.hash
  /-- In what clients were given. -/
  readers : ∀ hasher hash size history reader n,
    .finished (.get .cas hasher hash size 0) history (.ok (some (reader, n))) ∈ s.tasks →
      ∃ blob, reader.readAll = .ok blob ∧ hasher.hash blob = hash

/-- Integrity after every run: whatever jobs are started, whichever of them makes the next step,
and wherever they are dropped. -/
theorem service_integrity (out : Surroundings π ν) (w : World π ν) (moves : List Move)
    (hsep : Separate H) (hjobs : ∀ job, .start job ∈ moves → ∀ h ∈ job.hashers, h ∈ H)
    (hempty : w.store = Store.empty) :
    ((Service.idle w).run out moves).Intact H := by
  have hrun : Service.Invariant (fun w => Sound H w.store)
      (Service.Conforms (integrity H) (Job.Genuine H)) ((Service.idle w).run out moves) :=
    Service.run_keeps (integrity_upheld out)
      (fun op w hw => Sound.of_entries_eq hw (entries_abandon out op w))
      (fun job hjob => job.keeps (hjobs job hjob)) (hempty ▸ sound_empty)
  refine ⟨fun h hh hash blob hfind => ?_, fun t ht path upload hmem hkind => ?_,
    fun hasher hash size history reader n hmem => ?_⟩
  · exact (hrun.world _ _ hfind).hash_eq hsep hh
  · obtain ⟨h, hh, hpath, hblob⟩ := ((hrun.tasks t ht).history _ hmem).1
    exact ⟨h, hh, hkind ▸ hpath, hblob hkind⟩
  · obtain ⟨hh, hreader⟩ := (hrun.tasks _ hmem).result
    obtain ⟨blob, hread, hoffered⟩ := hreader reader n rfl
    exact ⟨blob, hread, hoffered.hash_eq hsep hh⟩

/-- A blob is put while another client, who has begun to ask for it, waits for the proxy. -/
theorem service_integrity_of_put_during_get :
    let h : Hasher := .ofAlgorithm .sha256 .sha256
    let blob : Bytes := [104, 105]
    let out : Surroundings Proxy.Recording Unit := ⟨.recording true, .down⟩
    let w : World Proxy.Recording Unit := ⟨.empty, .empty, (), []⟩
    let moves : List Move :=
      [.start (.get .cas h (h.hash blob) none 0), .advance 0,
        .start (.put .cas h (h.hash blob) 2 (.ofBytes blob)), .advance 1, .advance 1, .advance 0,
        .advance 0, .advance 0]
    let s := (Service.idle w).run out moves
    (Separate Registry.standard.hashers ∧
      (∀ job, .start job ∈ moves → ∀ g ∈ job.hashers, g ∈ Registry.standard.hashers) ∧
      w.store = Store.empty) ∧
    s.world.store.entries.find? (Entry.blobPath .cas h (h.hash blob)) = some blob ∧
    s.Intact Registry.standard.hashers := by
  intro h blob out w moves s
  have hjobs : ∀ job, .start job ∈ moves → ∀ g ∈ job.hashers, g ∈ Registry.standard.hashers := by
    intro job hjob g hg
    simp only [moves, List.mem_cons, Move.start.injEq, reduceCtorEq, List.not_mem_nil, or_false,
      false_or] at hjob
    obtain rfl : g = h := by
      rcases hjob with rfl | rfl <;> exact List.mem_singleton.1 hg
    exact List.mem_cons_self
  exact ⟨⟨separate_standard, hjobs, rfl⟩, by decide +kernel,
    service_integrity out w moves separate_standard hjobs rfl⟩

end AssetCache
