import AssetCache.Proofs.Asset.Download
import AssetCache.Proofs.Service.Settled

/-!
# Downloads into a store that no one else uses

Where requests come one after another, a download cannot be refused for a write of someone else.  It
cannot be refused for an entry either, if it has to match a digest: that digest was looked up before
and not found, and nothing was stored since.  One that has none to match may meet an entry under its
own digest, which is then the same blob, as long as no two blobs at hand share a digest.

Results:
1. `held_of_retrieved`: after a download that is reported, the store has the blob that the place
   served.
2. `reported_blob_is_held`: it is reported truthfully, and the store gives it.
-/

namespace AssetCache

variable {π ν : Type} {H : List Hasher}

/-- The octets of all bodies that were served. -/
def served (t : List Action.interface.Exchange) : List Bytes :=
  t.filterMap fun e =>
    match e with
    | ⟨.fetch _, answer⟩ =>
      match (answer : Except FetchError FetchedBody) with
      | .ok fetched => some fetched.body.bytes
      | .error _ => none
    | _ => none

/-- Among these blobs, `hasher` gives no two the same digest, nor one the digest that another has by
a hasher of `H` with the same directory.  Where each hasher has its own, that is `hasher` itself. -/
def CollisionFree (H : List Hasher) (hasher : Hasher) (blobs : List Bytes) : Prop :=
  ∀ g ∈ H, g.dir = hasher.dir → ∀ a ∈ blobs, ∀ b ∈ blobs, g.hash a = hasher.hash b → a = b

theorem Reader.short_of_lt {body : Reader} (h : body.bytes.length < 1 <<< 63) : body.Short :=
  Nat.lt_trans h (by decide)

theorem BlobDigest.toInt_ofSize (hash : String) {size : Nat} (h : size < 1 <<< 63) :
    (BlobDigest.ofSize hash size).sizeBytes.toInt = size := by
  unfold BlobDigest.ofSize
  rw [if_pos h]
  exact Int64.toInt_ofNat_of_lt h

namespace Resolver

open Resolution (Does)
open Cache (Held)

variable {r : Resolver} {hasher : Hasher} {hash : String} {size : Nat} {body : Reader}
  {out : Surroundings π ν} {w : World π ν} {t : List Action.interface.Exchange}

/-- What is in the store after a download, in a world in which nothing was being written before. -/
inductive Landed (s s' : Store) (hasher : Hasher) (hash : String) (size : Nat) (body : Reader) :
    Prop
  | empty (hempty : hasher.isEmptyHash hash = true)
  | present (blob : Bytes) (hempty : hasher.isEmptyHash hash = false)
    (hbefore : s.entries.find? (Entry.blobPath .cas hasher hash) = some blob)
    (hafter : s'.entries = s.entries)
  | stored (blob : Bytes) (hempty : hasher.isEmptyHash hash = false)
    (hverify : Cache.verify .cas hasher hash (some size) body = .ok blob)
    (hafter : s'.entries.find? (Entry.blobPath .cas hasher hash) = some blob)

theorem landed_of_kept (hallows : w.Allows out t) (hidle : w.store.inFlight = [])
    (h : Kept hasher hash size body t) :
    Landed w.store (w.after out t).store hasher hash size body := by
  cases h with
  | empty hvalidate hempty => exact .empty hempty
  | present hvalidate hempty =>
    obtain ⟨blob, hblob⟩ := Store.exists_of_present (s := w.store) hallows.1
    have hne : Admission.present ≠ .begun := nofun
    exact .present blob hempty hblob (quiet_refused hne out w hallows).1
  | busy hvalidate hempty =>
    have hmem := Store.mem_inFlight_of_busy (s := w.store) hallows.1
    exact absurd (hidle ▸ hmem) List.not_mem_nil
  | stored blob hvalidate hempty hverify =>
    refine .stored blob hempty hverify ?_
    rw [store_after_stored hallows, EntryMap.find?_insert_self]

theorem eq_of_vouched {blobs : List Bytes} {blob found : Bytes}
    (hfree : CollisionFree H hasher blobs) (hmem : found ∈ blobs) (hmem' : blob ∈ blobs)
    (h : Vouched H (Entry.blobPath .cas hasher (hasher.hash blob)) found) : found = blob := by
  obtain ⟨kind, g, hg, x, hpath, hfound⟩ := h
  obtain rfl := Entry.kind_eq_of_blobPath_eq hpath
  obtain rfl := hfound rfl
  obtain ⟨-, hdir, hhash⟩ := Entry.blobPath_injective_of_hash
    (hasher.slash_not_mem_hash blob) (g.slash_not_mem_hash found) hpath
  exact hfree g hg hdir.symm found hmem blob hmem' hhash.symm

/-- A download that has to match a digest is what is stored under it. -/
theorem held_of_streamed {s s' : Store} (hempty : hasher.isEmptyHash hash = false)
    (habsent : s.entries.find? (Entry.blobPath .cas hasher hash) = none) (hshort : body.Short)
    (h : Landed s s' hasher hash size body) :
    ∃ blob, body.readAll = .ok blob ∧ hasher.hash blob = hash ∧ blob.length = size ∧
      Held s' .cas hasher hash blob := by
  cases h with
  | empty he => exact nomatch hempty.symm.trans he
  | present found _ hbefore _ => exact nomatch habsent.symm.trans hbefore
  | stored blob _ hverify hafter =>
    obtain ⟨hlength, hread⟩ := Cache.of_verify_sized hshort hverify
    exact ⟨blob, hread, Cache.hash_eq_of_verify hverify, hlength,
      .entry blob (isEmptyBlob_cas hasher hash ▸ hempty) hafter⟩

/-- A download under its own digest is what there is under it. -/
theorem held_of_buffered {s s' : Store} {blob : Bytes} {blobs : List Bytes} (hsound : Sound H s)
    (hmem : hasher ∈ H) (hfree : CollisionFree H hasher blobs) (hnil : [] ∈ blobs)
    (hstored : ∀ b ∈ s.blobs, b ∈ blobs) (hblob : blob ∈ blobs)
    (hshort : (Reader.ofBytes blob).Short)
    (h : Landed s s' hasher (hasher.hash blob) blob.length (.ofBytes blob)) :
    Held s' .cas hasher (hasher.hash blob) blob := by
  cases h with
  | empty hempty =>
    have hhash : hasher.hash [] = hasher.hash blob := by
      rw [Hasher.hash_nil, Hasher.eq_empty_of_isEmptyHash hempty]
    obtain rfl := hfree hasher hmem rfl [] hnil blob hblob hhash
    exact .empty (isEmptyBlob_cas _ _ ▸ hempty)
  | present found hempty hbefore hafter =>
    obtain rfl := eq_of_vouched hfree (hstored found (Store.mem_blobs hbefore)) hblob
      (hsound _ _ hbefore)
    exact .entry found (isEmptyBlob_cas _ _ ▸ hempty) (hafter ▸ hbefore)
  | stored found hempty hverify hafter =>
    obtain ⟨-, hread⟩ := Cache.of_verify_sized hshort hverify
    obtain rfl : blob = found := Except.ok.inj ((Reader.readAll_ofBytes blob).symm.trans hread)
    exact .entry blob (isEmptyBlob_cas _ _ ▸ hempty) hafter

/-- The fetch of a download, and the event after it, do not touch the store. -/
theorem allows_after_fetch {address : Url.WebAddress} {fetched : FetchedBody} {event : Event}
    {rest : List Action.interface.Exchange}
    (h : w.Allows out (⟨.fetch address, .ok fetched⟩ :: ⟨.log event, ()⟩ :: rest)) :
    ∃ w' : World π ν, w'.store = w.store ∧ w'.Allows out rest ∧
      w.after out (⟨.fetch address, .ok fetched⟩ :: ⟨.log event, ()⟩ :: rest) = w'.after out rest :=
  ⟨w.after out [⟨.fetch address, .ok fetched⟩, ⟨.log event, ()⟩], rfl, h.2.2, rfl⟩

/-- A request that is answered with a place leaves in the store what the place served. -/
theorem held_of_retrieved {request : FetchRequest} {response : FetchBlobResponse} {uri : String}
    {expectedHash : Option String} {d : DigestFunction × BlobDigest}
    {before this rest : List Action.interface.Exchange} {address : Url.WebAddress}
    {fetched : FetchedBody} {blobs : List Bytes}
    (hsound : Sound H w.store) (hidle : w.store.inFlight = []) (hreg : r.registry.hashers ⊆ H)
    (hallows : w.Allows out t)
    (hret : r.Retrieved request t response uri hasher expectedHash d before this)
    (hdown : r.Downloaded hasher expectedHash uri this d address fetched hash size body rest)
    (hfree : CollisionFree H hasher blobs) (hnil : [] ∈ blobs)
    (hstored : ∀ b ∈ w.store.blobs, b ∈ blobs)
    (hserved : ∀ blob, fetched.body.readAll = .ok blob → blob ∈ blobs)
    (hshort : fetched.body.Short) :
    ∃ blob, fetched.body.readAll = .ok blob ∧ hasher.hash blob = hash ∧ blob.length = size ∧
      Held (w.after out t).store .cas hasher hash blob := by
  rw [hret.history, hdown.history] at hallows ⊢
  obtain ⟨hbefore, hthis⟩ := (World.allows_append w).1 hallows
  obtain ⟨hentries, hmarks⟩ := hret.quiet out w hbefore
  rw [World.after_append]
  obtain ⟨w', hstore, hrest, hafter⟩ := allows_after_fetch hthis
  rw [hafter]
  rw [← hstore] at hentries hmarks
  have hlanded := landed_of_kept hrest (hmarks.trans hidle) hdown.kept
  -- A digest that had to be matched was looked up before, and a blob of its own may be there.
  cases way_of_download hret.targeted hdown.download with
  | streamed e _ hlast _ =>
    have hmissed := hret.missed e (List.mem_of_getLast? hlast)
    refine held_of_streamed hmissed.nonempty ?_ hshort hlanded
    rw [hentries]
    exact hmissed.absent out w hbefore
  | buffered _ blob _ hread =>
    have hall := readAll_of_bufferBody hshort hread
    have hshort' : (Reader.ofBytes blob).Short := by
      unfold Reader.Short at hshort ⊢
      rwa [Reader.bytes_ofBytes, ← Reader.bytes_of_readAll hall]
    refine ⟨blob, hall, rfl, rfl, ?_⟩
    have hmem := hreg (mem_of_requestTarget hret.targeted)
    refine held_of_buffered (hsound.of_entries_eq hentries) hmem hfree hnil ?_
      (hserved blob hall) hshort' hlanded
    unfold Store.blobs
    rw [hentries]
    exact hstored

theorem mem_served {address : Url.WebAddress} {fetched : FetchedBody} {blob : Bytes}
    (hmem : ⟨.fetch address, .ok fetched⟩ ∈ t) (hread : fetched.body.readAll = .ok blob) :
    blob ∈ served t :=
  List.mem_filterMap.2 ⟨_, hmem, congrArg some (Reader.bytes_of_readAll hread)⟩

/-- A download is reported as what the place served, and the world `w'` after it gives all of that
under the reported digest and of the reported length. -/
def HeldAsReported (r : Resolver) (request? : Option FetchRequest) (out : Surroundings π ν)
    (w' : World π ν) (history : List Action.interface.Exchange) (response : FetchBlobResponse)
    (uri : String) : Prop :=
  ∃ request hasher digest address fetched before after blob,
    request? = some request ∧
    r.Reported request history response uri hasher digest address fetched before after ∧
    fetched.body.readAll = .ok blob ∧
    hasher.hash blob = digest.hash ∧ digest.sizeBytes.toInt = blob.length ∧
    ∃ reader,
      ((Cache.get .cas hasher digest.hash (some blob.length) 0).run out w').1 =
        .ok (some (reader, .known blob.length)) ∧
      reader.readAll = .ok blob

/-- Where requests come one after another, what is fetched for a request is then in the store, as it
was served and as it is reported. -/
theorem reported_blob_is_held (out : Surroundings π ν) (w : World π ν)
    {request? : Option FetchRequest} {response : FetchBlobResponse} {uri : String}
    (hsettled : Settled H w.store) (hreg : r.registry.hashers ⊆ H)
    (hrun : ((r.fetchBlobOperation request?).run out w).1 = .ok response)
    (hok : response.status = .ok) (huri : response.uri = some uri)
    (hshort : ∀ bytes ∈ served ((r.fetchBlobOperation request?).history out w),
      bytes.length < 1 <<< 63)
    (hfree : ∀ hasher, r.registry.get response.digestFunction = .ok hasher →
      CollisionFree H hasher
        ([] :: (w.store.blobs ++ served ((r.fetchBlobOperation request?).history out w)))) :
    r.HeldAsReported request? out ((r.fetchBlobOperation request?).run out w).2
      ((r.fetchBlobOperation request?).history out w) response uri := by
  have hdoes := does_history hrun
  have hallows := Operation.allows_history out (r.fetchBlobOperation request?) w
  rw [← Operation.after_history]
  generalize (r.fetchBlobOperation request?).history out w = t at *
  obtain ⟨request, rfl, hasher, expectedHash, d, before, this, hret⟩ :=
    retrieved_of_does hok huri hdoes
  obtain ⟨address, fetched, hash, size, body, rest, hdown⟩ := fetchUri_does.1 hret.does
  have hreported := reported_of_retrieved hret hdown
  have hfetched : ⟨.fetch address, .ok fetched⟩ ∈ t := by
    rw [hreported.history]
    exact List.mem_append_right _ List.mem_cons_self
  have hlength : fetched.body.bytes.length < 1 <<< 63 :=
    hshort _ (List.mem_filterMap.2 ⟨_, hfetched, rfl⟩)
  obtain ⟨blob, hread, rfl, rfl, hheld⟩ := held_of_retrieved hsettled.sound hsettled.inFlight hreg
    hallows hret hdown (hfree hasher hreported.function) List.mem_cons_self
    (fun b hb => List.mem_cons_of_mem _ (List.mem_append_left _ hb))
    (fun b hb => List.mem_cons_of_mem _ (List.mem_append_right _ (mem_served hfetched hb)))
    (Reader.short_of_lt hlength)
  rw [Reader.bytes_of_readAll hread] at hlength
  refine ⟨request, hasher, _, address, fetched, before, rest, blob, rfl, hreported, hread, rfl,
    BlobDigest.toInt_ofSize _ hlength, .ofBytes blob, ?_, Reader.readAll_ofBytes blob⟩
  rw [show (BlobDigest.ofSize (hasher.hash blob) blob.length).hash = hasher.hash blob from rfl,
    Cache.get_of_held hheld]
  simp [Cache.serve, Cache.fits]

/-- A download that has to match a digest, and is left to the store to verify. -/
theorem reported_blob_is_held_of_hello :
    let blob := Utf8.ofString "hello"
    let uri := "http://[::1]/"
    let out : Surroundings Unit Unit :=
      ⟨.absent, ⟨fun _ s => (.ok ⟨200, some 5, .ofBytes blob⟩, s)⟩⟩
    let w : World Unit Unit := ⟨.empty, (), (), []⟩
    let r : Resolver := ⟨.standard, {}⟩
    let request : FetchRequest :=
      { qualifiers := [some (.checksum "sha256-LPJNul+wow4m6DsqxbninhsWHlwfp0JecwQzYpOLmCQ=")]
        uris := [uri] }
    let op := r.fetchBlobOperation (some request)
    ∃ response : FetchBlobResponse,
      ((op.run out w).1 = .ok response ∧ response.status = .ok ∧ response.uri = some uri) ∧
      r.HeldAsReported (some request) out (op.run out w).2 (op.history out w) response uri := by
  intro blob uri out w r request op
  have hrun : (op.run out w).1 = .ok (.found .sha256
      (.ofSize "2cf24dba5fb0a30e26e83b2ac5b9e29e1b161e5c1fa7425e73043362938b9824" 5)
      (some uri)) := by decide +kernel
  refine ⟨_, ⟨hrun, rfl, rfl⟩, reported_blob_is_held out w (H := Registry.standard.hashers)
    .empty (fun _ h => h) hrun rfl rfl (by decide +kernel) ?_⟩
  intro hasher hget
  obtain rfl : Hasher.ofAlgorithm .sha256 .sha256 = hasher := Except.ok.inj hget
  unfold CollisionFree
  decide +kernel

end Resolver

end AssetCache
