import AssetCache.Proofs.Asset.FirstSuccess
import AssetCache.Proofs.Asset.Download
import AssetCache.Proofs.Store.Notes

/-!
# What a request leaves behind

A request tries its candidates one after another, and those that fail leave nothing: no entry, no
mark, and no word to the proxy.  So all that a request leaves is left by the candidate that resolves
it, and that is one blob at most, where there was no entry, under the digest that is answered.

Results:
1. `ask_get`, `ask_put`: what one call of the cache leaves.
2. `knownSize_leaves`, `retrieve_leaves`: what one candidate leaves.
3. `at_most_one_blob_left`: what a request leaves.
-/

namespace AssetCache

variable {π ν : Type} {t : List Action.interface.Exchange} {hasher : Hasher} {hash : String}
  {blob : Bytes}

/-- What a call is answered, it is answered by a history that can happen. -/
theorem World.ask_history (out : Surroundings π ν) (w : World π ν) (c : Request.Call) :
    ∃ t, w.Allows out t ∧ (Request.implement c).Leads t (w.ask out c).1 ∧
      (w.ask out c).2 = (w.after out t).silent := by
  obtain ⟨t, hallows, hleads, hafter⟩ := Operation.exists_history out (Request.implement c) w
  exact ⟨t, hallows, hleads, congrArg World.silent hafter.symm⟩

/-! ## What may be left -/

/-- Between two worlds nothing was stored, no mark was left or taken away, and the proxy was told
nothing. -/
structure Untouched (w w' : World (π × List Notice) ν) : Prop where
  entries : w'.store.entries = w.store.entries
  inFlight : w'.store.inFlight = w.store.inFlight
  told : w'.proxy.2 = w.proxy.2

/-- Between two worlds one blob was stored, under its digest, where there was no entry; and the
proxy was told of this blob or of nothing. -/
structure Added (w w' : World (π × List Notice) ν) (hasher : Hasher) (hash : String)
    (blob : Bytes) : Prop where
  digested : hasher.hash blob = hash
  absent : w.store.entries.find? (Entry.blobPath .cas hasher hash) = none
  entries : w'.store.entries = w.store.entries.insert (Entry.blobPath .cas hasher hash) blob
  inFlight : w'.store.inFlight = w.store.inFlight
  told : w'.proxy.2 = w.proxy.2 ∨
    w'.proxy.2 = w.proxy.2 ++ [⟨.cas, hash, blob.length, blob.length, blob⟩]

/-- Nothing was left, or one blob. -/
def AddedAtMost (w w' : World (π × List Notice) ν) (hasher : Hasher) (hash : String) : Prop :=
  Untouched w w' ∨ ∃ blob, Added w w' hasher hash blob

variable {w w' w'' : World (π × List Notice) ν}

theorem Untouched.refl : Untouched w w := ⟨rfl, rfl, rfl⟩

theorem Untouched.trans (h : Untouched w w') (h' : Untouched w' w'') : Untouched w w'' :=
  ⟨h'.entries.trans h.entries, h'.inFlight.trans h.inFlight, h'.told.trans h.told⟩

theorem Untouched.added (h : Untouched w w') (h' : Added w' w'' hasher hash blob) :
    Added w w'' hasher hash blob where
  digested := h'.digested
  absent := h.entries ▸ h'.absent
  entries := h.entries ▸ h'.entries
  inFlight := h'.inFlight.trans h.inFlight
  told := h.told ▸ h'.told

theorem Untouched.addedAtMost (h : Untouched w w') (h' : AddedAtMost w' w'' hasher hash) :
    AddedAtMost w w'' hasher hash := by
  rcases h' with h' | ⟨blob, h'⟩
  · exact .inl (h.trans h')
  · exact .inr ⟨blob, h.added h'⟩

/-! ## Calls -/

variable {p : Proxy π} {network : Network ν}

theorem told_after (t : List Action.interface.Exchange) (w : World (π × List Notice) ν) :
    (w.after ⟨p.noting, network⟩ t).proxy.2 = w.proxy.2 ++ notices t := by
  induction t generalizing w with
  | nil => exact (List.append_nil _).symm
  | cons e t ih =>
    have hstep : (Action.perform ⟨p.noting, network⟩ e.1 w).2.proxy.2 =
        w.proxy.2 ++ Action.notices e.1 := by
      obtain ⟨a, answer⟩ := e
      cases a with
      | finish path upload =>
        cases upload with
        | none => exact (List.append_nil _).symm
        | some u => rfl
      | _ => exact (List.append_nil _).symm
    rw [World.after_cons, ih, hstep, List.append_assoc]
    rfl

theorem untouched_of_quiet (hallows : w.Allows ⟨p.noting, network⟩ t) (hquiet : Quiet t)
    (hnotices : notices t = []) : Untouched w (w.after ⟨p.noting, network⟩ t).silent := by
  obtain ⟨hentries, hmarks⟩ := hquiet _ w hallows
  refine ⟨hentries, hmarks, (told_after t w).trans ?_⟩
  rw [hnotices, List.append_nil]

variable (p network)

theorem ask_contains (kind : EntryKind) (hasher : Hasher) (hash : String) (size : Option Nat)
    (w : World (π × List Notice) ν) :
    Untouched w (w.ask ⟨p.noting, network⟩ (.contains kind hasher hash size)).2 := by
  obtain ⟨t, hallows, hleads, hafter⟩ :=
    w.ask_history ⟨p.noting, network⟩ (.contains kind hasher hash size)
  have htold := Cache.contains_leads hleads
  generalize (w.ask ⟨p.noting, network⟩ (.contains kind hasher hash size)).1 = answer at htold
  rw [hafter]
  cases htold with
  | empty => exact untouched_of_quiet hallows quiet_nil rfl
  | stored => exact untouched_of_quiet hallows (quiet_of_reads (by simp [Action.Reads])) rfl
  | asked => exact untouched_of_quiet hallows (quiet_of_reads (by simp [Action.Reads])) rfl

/-- A blob is left by a request for it if the proxy gave it, and then it is given. -/
theorem ask_get (hasher : Hasher) (hash : String) (w : World (π × List Notice) ν) :
    Untouched w (w.ask ⟨p.noting, network⟩ (.get .cas hasher hash none 0)).2 ∨
      ∃ blob,
        Added w (w.ask ⟨p.noting, network⟩ (.get .cas hasher hash none 0)).2 hasher hash blob ∧
        (w.ask ⟨p.noting, network⟩ (.get .cas hasher hash none 0)).1 =
          .ok (some (.ofBytes blob, .known blob.length)) := by
  obtain ⟨t, hallows, hleads, hafter⟩ :=
    w.ask_history ⟨p.noting, network⟩ (.get .cas hasher hash none 0)
  obtain ⟨result, hfound, hanswer⟩ := Cache.get_leads hleads
  rw [hafter, hanswer]
  cases hfound with
  -- Of all that a search does, only this stores something, and the look-up before it found nothing.
  | filled body n blob hverify =>
    let path := Entry.blobPath .cas hasher hash
    refine .inr ⟨blob, ⟨Cache.hash_eq_of_verify hverify, ?_, ?_, ?_, .inl rfl⟩, rfl⟩
    · exact (w.store.answer_lookup path).symm.trans hallows.1
    · exact congrArg (EntryMap.insert · path blob) (w.store.entries_lookup path)
    · exact w.store.inFlight_lookup path
  | empty => exact .inl (untouched_of_quiet hallows quiet_nil rfl)
  | _ => exact .inl (untouched_of_quiet hallows (quiet_of_reads (by simp [Action.Reads])) rfl)

/-- A put leaves a blob only if it succeeds. -/
theorem ask_put (hasher : Hasher) (hash : String) (size : Nat) (body : Reader)
    (w : World (π × List Notice) ν) :
    Untouched w (w.ask ⟨p.noting, network⟩ (.put .cas hasher hash size body)).2 ∨
      (w.ask ⟨p.noting, network⟩ (.put .cas hasher hash size body)).1 = .ok () ∧
        ∃ blob, Added w (w.ask ⟨p.noting, network⟩ (.put .cas hasher hash size body)).2 hasher hash
          blob := by
  obtain ⟨t, hallows, hleads, hafter⟩ :=
    w.ask_history ⟨p.noting, network⟩ (.put .cas hasher hash size body)
  have hstored := Cache.put_leads.1 hleads
  generalize (w.ask ⟨p.noting, network⟩ (.put .cas hasher hash size body)).1 = answer at hstored ⊢
  rw [hafter]
  cases hstored with
  | invalid => exact .inl (untouched_of_quiet hallows quiet_nil rfl)
  | empty => exact .inl (untouched_of_quiet hallows quiet_nil rfl)
  | present => exact .inl (untouched_of_quiet hallows (quiet_refused (by decide)) rfl)
  | busy => exact .inl (untouched_of_quiet hallows (quiet_refused (by decide)) rfl)
  | rejected => exact .inl (untouched_of_quiet hallows quiet_rejected rfl)
  | stored blob _ _ hverify =>
    have habsent := Store.absent_of_begun (s := w.store) hallows.1 rfl
    have hstore := store_after_stored hallows
    exact .inr ⟨rfl, blob, Cache.hash_eq_of_verify hverify, habsent,
      (congrArg Store.entries hstore :), (congrArg Store.inFlight hstore :), .inr (told_after _ w)⟩

/-! ## Candidates -/

namespace Resolver

/-- A checksum leaves its blob at most, and nothing if it does not work. -/
theorem knownSize_leaves (e : Expected) (w : World (π × List Notice) ν) :
    AddedAtMost w (knownSize ⟨p.noting, network⟩ e w).2 e.hasher e.hash ∧
      ((knownSize ⟨p.noting, network⟩ e w).1 = none →
        Untouched w (knownSize ⟨p.noting, network⟩ e w).2) := by
  have htold := ask_contains p network .cas e.hasher e.hash none w
  unfold knownSize
  dsimp only
  split
  next => exact ⟨.inl htold, fun _ => htold⟩
  next => exact ⟨.inl htold, fun _ => htold⟩
  next =>
    rcases ask_get p network e.hasher e.hash
      (w.ask ⟨p.noting, network⟩ (.contains .cas e.hasher e.hash none)).2 with
      hgiven | ⟨blob, hadded, hanswer⟩
    · have hboth := htold.trans hgiven
      split
      next => exact ⟨.inl hboth, fun _ => hboth⟩
      next => exact ⟨.inl hboth, fun _ => hboth⟩
    · rw [hanswer]
      exact ⟨.inr ⟨blob, htold.added hadded⟩, nofun⟩

variable {r : Resolver}

/-- A place leaves a blob under the digest that it gives at most, and nothing if it does not
work. -/
theorem retrieve_leaves (target : Option (Hasher × Option String)) (uri : String)
    (w : World (π × List Notice) ν) :
    ((r.retrieve ⟨p.noting, network⟩ target uri w).1 = none →
        Untouched w (r.retrieve ⟨p.noting, network⟩ target uri w).2) ∧
      ∀ d, (r.retrieve ⟨p.noting, network⟩ target uri w).1 = some d →
        ∃ hasher expectedHash, target = some (hasher, expectedHash) ∧ d.1 = hasher.function ∧
          AddedAtMost w (r.retrieve ⟨p.noting, network⟩ target uri w).2 hasher d.2.hash := by
  unfold retrieve
  split
  next hasher expectedHash address _ =>
    have hfetch : Untouched w (w.ask ⟨p.noting, network⟩ (.fetch address)).2 := ⟨rfl, rfl, rfl⟩
    dsimp only
    split
    next => exact ⟨fun _ => hfetch, nofun⟩
    next =>
      split
      next hash size body _ _ =>
        rcases ask_put p network hasher hash size body
          (w.ask ⟨p.noting, network⟩ (.fetch address)).2 with hput | ⟨hok, blob, hadded⟩
        · have hboth := hfetch.trans hput
          refine ⟨fun _ => hboth, fun d hd => ⟨hasher, expectedHash, rfl, ?_⟩⟩
          split at hd
          next =>
            obtain rfl := Option.some.inj hd
            exact ⟨rfl, .inl hboth⟩
          next => exact nomatch hd
        · rw [hok]
          refine ⟨nofun, fun d hd => ⟨hasher, expectedHash, rfl, ?_⟩⟩
          obtain rfl := Option.some.inj hd
          exact ⟨rfl, .inr ⟨blob, hfetch.added hadded⟩⟩
      next => exact ⟨fun _ => hfetch, nofun⟩
  next => exact ⟨fun _ => .refl, nofun⟩

/-! ## Requests -/

/-- What is specified of a request where notes are taken is its run, with the notes of its
history. -/
theorem specified_noted (p : Proxy π) (n : Network ν) (request? : Option FetchRequest)
    (w : World π ν) :
    r.specified ⟨p.noting, n.noting⟩ request? (w.noted [] []).silent =
      (((r.fetchBlobOperation request?).run ⟨p, n⟩ w).1,
        (((r.fetchBlobOperation request?).run ⟨p, n⟩ w).2.noted
          (notices ((r.fetchBlobOperation request?).history ⟨p, n⟩ w))
          (addresses ((r.fetchBlobOperation request?).history ⟨p, n⟩ w))).silent) := by
  have hspecified : (r.fetchBlobOperation request?).outcome (Surroundings.noting ⟨p, n⟩)
      (w.noted [] []) = _ := outcome_fetchBlob request? _
  rw [Operation.outcome, Operation.run_noting] at hspecified
  exact hspecified.symm

/-- What a request leaves that is answered so: nothing, or the blob that the answer names. -/
inductive Leaves (r : Resolver) (w w' : World (π × List Notice) ν) :
    Except AssetError FetchBlobResponse → Prop
  | nothing (answer : Except AssetError FetchBlobResponse) (h : Untouched w w') :
    Leaves r w w' answer
  | blob (hasher : Hasher) (digest : BlobDigest) (uri : Option String) (blob : Bytes)
    (hmem : hasher ∈ r.registry.hashers) (h : Added w w' hasher digest.hash blob) :
    Leaves r w w' (.ok (.found hasher.function digest uri))

theorem leaves_of_addedAtMost {digest : BlobDigest} (hmem : hasher ∈ r.registry.hashers)
    (h : AddedAtMost w w' hasher digest.hash) (uri : Option String) :
    r.Leaves w w' (.ok (.found hasher.function digest uri)) := by
  rcases h with h | ⟨blob, h⟩
  · exact .nothing _ h
  · exact .blob hasher digest uri blob hmem h

/-- Candidates that fail leave nothing, so that before each candidate, and at the end if all of them
fail, the world is as it was. -/
theorem specified_leaves (request? : Option FetchRequest) (w : World (π × List Notice) ν) :
    r.Leaves w (r.specified ⟨p.noting, network⟩ request? w).2
      (r.specified ⟨p.noting, network⟩ request? w).1 := by
  let out : Surroundings (π × List Notice) ν := ⟨p.noting, network⟩
  cases request? with
  | none => exact .nothing _ .refl
  | some request =>
    have hchecksum (e : Expected) (_ : e ∈ r.requestChecksums request)
        (w₁ : World (π × List Notice) ν) (h : Untouched w w₁)
        (hnone : (knownSize out e w₁).1 = none) : Untouched w (knownSize out e w₁).2 :=
      h.trans ((knownSize_leaves p network e w₁).2 hnone)
    have hplace (uri : String) (_ : uri ∈ request.uris) (w₁ : World (π × List Notice) ν)
        (h : Untouched w w₁) (hnone : (r.retrieve out (r.requestTarget request) uri w₁).1 = none) :
        Untouched w (r.retrieve out (r.requestTarget request) uri w₁).2 :=
      h.trans ((retrieve_leaves p network _ uri w₁).1 hnone)
    unfold specified
    dsimp only
    split
    next => exact .nothing _ .refl
    next =>
      split
      next e size w' hfirst =>
        obtain ⟨he, w₁, hbefore, hattempt⟩ := firstSuccess_some .refl hchecksum hfirst
        have hleaves : AddedAtMost w₁ (knownSize out e w₁).2 e.hasher e.hash :=
          (knownSize_leaves p network e w₁).1
        rw [hattempt] at hleaves
        exact leaves_of_addedAtMost (of_mem_checksums he).1 (hbefore.addedAtMost hleaves) none
      next w' hfirst =>
        obtain ⟨hmissed, -⟩ := firstSuccess_none .refl hchecksum hfirst
        split
        next uri function digest w'' hsecond =>
          obtain ⟨-, w₁, hbefore, hattempt⟩ := firstSuccess_some hmissed hplace hsecond
          obtain ⟨hasher, expectedHash, htarget, rfl, hleaves⟩ :=
            (retrieve_leaves p network _ uri w₁).2 _ (congrArg Prod.fst hattempt)
          rw [hattempt] at hleaves
          exact leaves_of_addedAtMost (mem_of_requestTarget htarget)
            (hbefore.addedAtMost hleaves) (some uri)
        next w'' hsecond =>
          exact .nothing _ (firstSuccess_none hmissed hplace hsecond).1

/-- A store gained one blob: it is the one that the response names, and there was nothing under its
digest. -/
structure Gained (r : Resolver) (s s' : Store) (response : FetchBlobResponse) (hasher : Hasher)
    (digest : BlobDigest) (blob : Bytes) : Prop where
  status : response.status = .ok
  function : r.registry.get response.digestFunction = .ok hasher
  named : response.blobDigest = some digest
  digested : hasher.hash blob = digest.hash
  absent : s.entries.find? (Entry.blobPath .cas hasher digest.hash) = none
  entries : s'.entries = s.entries.insert (Entry.blobPath .cas hasher digest.hash) blob

/-- A store gained at most the blob that the answer names, and the proxy was told of no other. -/
structure GainsAtMost (r : Resolver) (s s' : Store) (answer : Except AssetError FetchBlobResponse)
    (told : List Notice) : Prop where
  /-- Nothing is stored and the proxy is told nothing, or one blob is stored. -/
  gained : (s'.entries = s.entries ∧ told = []) ∨
    ∃ response hasher digest blob, answer = .ok response ∧
      r.Gained s s' response hasher digest blob ∧
      (told = [] ∨ told = [⟨.cas, digest.hash, blob.length, blob.length, blob⟩])
  /-- What was there is there still. -/
  kept : ∀ path blob, s.entries.find? path = some blob → s'.entries.find? path = some blob
  inFlight : s'.inFlight = s.inFlight
  /-- For a request that is not resolved nothing is stored, and the proxy is told nothing. -/
  failed : (∀ response, answer = .ok response → response.status ≠ .ok) →
    s'.entries = s.entries ∧ told = []

theorem gainsAtMost_of_leaves {answer : Except AssetError FetchBlobResponse}
    (h : r.Leaves w w' answer) (hnone : w.proxy.2 = []) :
    r.GainsAtMost w.store w'.store answer w'.proxy.2 := by
  cases h with
  | nothing _ h =>
    have hsame := And.intro h.entries (h.told.trans hnone)
    exact ⟨.inl hsame, fun _ _ hfind => h.entries ▸ hfind, h.inFlight, fun _ => hsame⟩
  | blob hasher digest uri blob hmem h =>
    let response : FetchBlobResponse := .found hasher.function digest uri
    have hgained : r.Gained w.store w'.store response hasher digest blob :=
      ⟨rfl, Registry.get_function hmem, rfl, h.digested, h.absent, h.entries⟩
    have htold := h.told
    rw [hnone] at htold
    refine ⟨.inr ⟨response, hasher, digest, blob, rfl, hgained, htold⟩, ?_, h.inFlight, ?_⟩
    · intro path found hfind
      have hother : Entry.blobPath .cas hasher digest.hash ≠ path := by
        rintro rfl
        exact nomatch h.absent.symm.trans hfind
      rw [h.entries, EntryMap.find?_insert, if_neg hother]
      exact hfind
    · exact fun hnot => absurd rfl (hnot response rfl)

/-- A request leaves one blob at most, which is the one that it is answered with, and nothing if it
is not resolved: in whatever state the store is, and whatever the registry, the proxy, the network
and the request are. -/
theorem at_most_one_blob_left (r : Resolver) (out : Surroundings π ν)
    (request? : Option FetchRequest) (w : World π ν) :
    r.GainsAtMost w.store ((r.fetchBlobOperation request?).run out w).2.store
      ((r.fetchBlobOperation request?).run out w).1
      (notices ((r.fetchBlobOperation request?).history out w)) := by
  have hleaves := specified_leaves (r := r) out.proxy out.network.noting request?
    (w.noted [] []).silent
  rw [specified_noted] at hleaves
  exact gainsAtMost_of_leaves hleaves rfl

end Resolver

end AssetCache
