import AssetCache.Proofs.Asset.Candidates
import AssetCache.Proofs.Asset.Persistence
import AssetCache.Proofs.Asset.Streaming

/-!
# The last of the checksums

Each checksum of a request is looked up on its own, but only one of them is carried on to the
places: the last that could be read.  So where none is found in the store, what is downloaded has to
match the last.  A body that matches another of them is refused like any other, and which the others
are, and in what order, makes no difference.

Results:
1. `bring_iff`: what a place brings for a checksum, by the network alone.
2. `retrieve_eq_bring`: a place is retrieved for a wanted blob just if it brings it.
3. `firstSuccess_of_noneFound`: checksums that are not found leave all that matters as it was.
4. `last_checksum_decides`: what a request is answered where none of its checksums is found.
-/

namespace AssetCache

variable {π ν : Type} {hasher : Hasher} {hash : String} {body : Reader} {blob : Bytes}

/-! ## Putting -/

theorem Cache.validate_of_verify {size : Nat}
    (h : verify .cas hasher hash (some size) body = .ok blob) :
    validate .cas hasher hash size = .ok () := by
  obtain ⟨rfl, -⟩ := length_of_readSized (readSized_of_verify h)
  unfold validate
  rw [← hash_eq_of_verify h, hasher.validateDigest_hash]

namespace Resolver

variable {r : Resolver} {out : Surroundings π ν} {w : World π ν} {network : Network ν}
  {e : Expected} {fetched : FetchedBody} {uri : String} {s : ν} {d : DigestFunction × BlobDigest}

/-- A body that is verified is taken, or there is no need to. -/
theorem handOver_verified {size : Nat}
    (hverify : Cache.verify .cas hasher hash (some size) body = .ok blob) :
    (handOver out hasher (.ok (hash, size, body)) w).1 =
      some (hasher.function, .ofSize hash size) := by
  obtain ⟨t, -, hleads, -⟩ := w.ask_history out (.put .cas hasher hash size body)
  have hstored := Cache.put_leads.1 hleads
  unfold handOver
  dsimp only
  generalize (w.ask out (.put .cas hasher hash size body)).1 = answer at hstored ⊢
  cases hstored with
  | invalid cause hinvalid => exact nomatch (Cache.validate_of_verify hverify).symm.trans hinvalid
  | rejected cause _ _ hrejected => exact nomatch hverify.symm.trans hrejected
  | _ => rfl

/-! ## What a place brings -/

/-- A place serves the blob of a checksum: it is a web address, its fetch is answered with success,
and the body can be read to its end, is as long as it is declared to be, and has the digest. -/
inductive Serves (network : Network ν) (e : Expected) (uri : String) (s : ν) (blob : Bytes) : Prop
  | served (address : Url.WebAddress) (fetched : FetchedBody)
    (hparse : Url.parse uri = .ok (.web address))
    (hfetch : (network.get address s).1 = .ok fetched)
    (hstatus : 200 ≤ fetched.status ∧ fetched.status < 300)
    (hread : fetched.body.readAll = .ok blob)
    (hdeclared : ∀ n, fetched.contentLength = some n → n = blob.length)
    (hhash : e.hasher.hash blob = e.hash) : Serves network e uri s blob

/-- The blob of a checksum, if it is what was fetched. -/
def blobOf? (e : Expected) (fetched : FetchedBody) : Option Bytes :=
  fetched.body.readAll.toOption.filter fun blob =>
    fetched.isSuccess && Cache.fits fetched.contentLength blob && e.hasher.hash blob = e.hash

/-- What a place brings for a checksum, and the network after it was asked. -/
def bring (network : Network ν) (e : Expected) (uri : String) (s : ν) :
    Option (DigestFunction × BlobDigest) × ν :=
  match Url.parse uri with
  | .ok (.web address) =>
    let fetched := network.get address s
    ((fetched.1.toOption.bind (blobOf? e)).map fun blob =>
      (e.hasher.function, .ofSize e.hash blob.length), fetched.2)
  | _ => (none, s)

theorem blobOf?_eq_some_iff :
    blobOf? e fetched = some blob ↔
      fetched.isSuccess = true ∧ fetched.body.readAll = .ok blob ∧
        (∀ n, fetched.contentLength = some n → n = blob.length) ∧ e.hasher.hash blob = e.hash := by
  unfold blobOf? Cache.fits
  cases fetched.body.readAll with
  | error reason => simp [Except.toOption]
  | ok found =>
    simp only [Except.toOption, Option.filter_eq_some_iff, Option.some.injEq, Bool.and_eq_true,
      decide_eq_true_eq, Option.all_eq_true, Except.ok.injEq]
    constructor
    · rintro ⟨rfl, ⟨hsuccess, hdeclared⟩, hhash⟩
      exact ⟨hsuccess, rfl, hdeclared, hhash⟩
    · rintro ⟨hsuccess, rfl, hdeclared, hhash⟩
      exact ⟨rfl, ⟨hsuccess, hdeclared⟩, hhash⟩

/-- A place brings what it serves. -/
theorem bring_iff :
    (bring network e uri s).1 = some d ↔
      ∃ blob, Serves network e uri s blob ∧
        d = (e.hasher.function, .ofSize e.hash blob.length) := by
  unfold bring
  constructor
  · intro h
    split at h
    next address hparse =>
      obtain ⟨blob, hblob, rfl⟩ := Option.map_eq_some_iff.1 h
      obtain ⟨fetched, hfetched, hblob⟩ := Option.bind_eq_some_iff.1 hblob
      obtain ⟨hsuccess, hread, hdeclared, hhash⟩ := blobOf?_eq_some_iff.1 hblob
      cases hfetch : (network.get address s).1 with
      | error cause =>
        rw [hfetch] at hfetched
        exact nomatch hfetched
      | ok answer =>
        rw [hfetch] at hfetched
        obtain rfl := Option.some.inj hfetched
        exact ⟨blob, .served address answer hparse hfetch (isSuccess_iff.1 hsuccess) hread
          hdeclared hhash, rfl⟩
    next => exact nomatch h
  · rintro ⟨blob, ⟨address, fetched, hparse, hfetch, hstatus, hread, hdeclared, hhash⟩, rfl⟩
    have hblob : blobOf? e fetched = some blob :=
      blobOf?_eq_some_iff.2 ⟨isSuccess_iff.2 hstatus, hread, hdeclared, hhash⟩
    simp [hparse, hfetch, Except.toOption, hblob]

/-! ## A place, by what it brings -/

theorem handOver_of_blobOf (hcap : r.config.maxBufferedBytes = none)
    (hshort : fetched.body.Short) (hblob : blobOf? e fetched = some blob) :
    (handOver out e.hasher (r.download e.hasher (some e.hash) fetched) w).1 =
      some (e.hasher.function, .ofSize e.hash blob.length) := by
  obtain ⟨-, hread, hdeclared, hhash⟩ := blobOf?_eq_some_iff.1 hblob
  have hlength : blob.length ≤ Decimal.largest := by
    rw [← Reader.bytes_of_readAll hread]
    exact Nat.le_of_lt hshort
  cases hcontent : fetched.contentLength with
  | some n =>
    obtain rfl := hdeclared n hcontent
    rw [download_iff.2 (.streamed e.hash blob.length rfl hcontent)]
    have hverify : Cache.verify .cas e.hasher e.hash (some blob.length) fetched.body =
        .ok blob := by
      rw [Cache.verify_cas_of_readAll hread (fun n hn => (Option.some.inj hn).symm) hlength]
      exact if_pos hhash
    exact handOver_verified hverify
  | none =>
    have hready : r.Ready e.hasher (some e.hash) fetched (e.hasher.hash blob) blob.length
        (.ofBytes blob) := by
      refine .buffered blob (.inr hcontent) ?_ hdeclared fun x hx => ?_
      · rw [hcap]
        exact hread
      · rw [hhash]
        exact (Option.some.inj hx).symm
    rw [hhash] at hready
    rw [download_iff.2 hready]
    have hverify : Cache.verify .cas e.hasher e.hash (some blob.length) (.ofBytes blob) =
        .ok blob := by
      rw [Cache.verify_ofBytes (fun n hn => (Option.some.inj hn).symm) hlength, if_pos hhash]
    exact handOver_verified hverify

/-- What is not the blob of the checksum is not taken. -/
theorem handOver_of_blobOf_none (hsuccess : fetched.isSuccess = true)
    (hshort : fetched.body.Short) (hwanted : Wanted w.store e.hasher e.hash)
    (hnone : blobOf? e fetched = none) :
    handOver out e.hasher (r.download e.hasher (some e.hash) fetched) w.silent =
      (none, w.silent) := by
  have hnot (blob : Bytes) (hread : fetched.body.readAll = .ok blob)
      (hdeclared : ∀ n, fetched.contentLength = some n → n = blob.length)
      (hhash : e.hasher.hash blob = e.hash) : False := by
    have hblob := blobOf?_eq_some_iff.2 ⟨hsuccess, hread, hdeclared, hhash⟩
    exact nomatch hnone.symm.trans hblob
  cases hdownload : r.download e.hasher (some e.hash) fetched with
  | error reason => rfl
  | ok handed =>
    obtain ⟨hash, size, body⟩ := handed
    cases download_iff.1 hdownload with
    | streamed _ _ hexpected hdeclared =>
      obtain rfl := Option.some.inj hexpected
      cases hverify : Cache.verify .cas e.hasher e.hash (some size) fetched.body with
      | error cause => exact handOver_rejected (w := w.silent) hwanted hverify
      | ok blob =>
        obtain ⟨hlength, hread⟩ := Cache.of_verify_sized hshort hverify
        refine absurd (Cache.hash_eq_of_verify hverify) (hnot blob hread fun n hn => ?_)
        rw [hlength]
        exact Option.some.inj (hn.symm.trans hdeclared)
    | buffered blob _ hbuffered hdeclared hexpected =>
      have hread : fetched.body.readAll = .ok blob := by
        unfold Buffered at hbuffered
        split at hbuffered
        next => exact hbuffered
        next => exact Reader.readAll_of_read hshort hbuffered.1 hbuffered.2
      exact absurd (hexpected e.hash rfl).symm (hnot blob hread hdeclared)

/-- The world, but for its log, after the network came to a state. -/
def asked (w : World π ν) (s : ν) : World π ν := ⟨w.store, w.proxy, s, []⟩

section

variable {address : Url.WebAddress} {expectedHash : Option String}

theorem ask_fetch {answer : Except FetchError FetchedBody}
    (hfetch : out.network.get address w.network = (answer, s)) :
    w.ask out (.fetch address) = (answer, asked w s) := by
  obtain ⟨rfl, rfl⟩ := Prod.mk.inj hfetch
  rfl

/-- A fetch that fails, or is not answered with success, leads to nothing. -/
theorem retrieve_of_failed {answer : Except FetchError FetchedBody}
    (hparse : Url.parse uri = .ok (.web address))
    (hfetch : out.network.get address w.network = (answer, s))
    (hfailed : ∀ fetched, answer = .ok fetched → fetched.isSuccess = false) :
    r.retrieve out (some (hasher, expectedHash)) uri w = (none, asked w s) := by
  unfold retrieve
  rw [hparse]
  dsimp only
  rw [ask_fetch hfetch]
  cases answer with
  | error cause => rfl
  | ok fetched =>
    dsimp only
    rw [hfailed fetched rfl]

/-- What is fetched with success is handed over. -/
theorem retrieve_of_fetched (hparse : Url.parse uri = .ok (.web address))
    (hfetch : out.network.get address w.network = (.ok fetched, s))
    (hsuccess : fetched.isSuccess = true) :
    r.retrieve out (some (hasher, expectedHash)) uri w =
      handOver out hasher (r.download hasher expectedHash fetched) (asked w s) := by
  unfold retrieve
  rw [hparse]
  dsimp only
  rw [ask_fetch hfetch]
  dsimp only
  rw [hsuccess]
  cases r.download hasher expectedHash fetched with
  | error reason => rfl
  | ok handed => rfl

theorem bring_of_not_web (hweb : isWeb uri = false) : bring network e uri s = (none, s) := by
  unfold bring
  split
  next address hparse => exact nomatch hweb.symm.trans (isWeb_iff.2 ⟨address, hparse⟩)
  next => rfl

theorem bring_of_web {answer : Except FetchError FetchedBody} {s' : ν}
    (hparse : Url.parse uri = .ok (.web address))
    (hfetch : network.get address s = (answer, s')) :
    bring network e uri s =
      ((answer.toOption.bind (blobOf? e)).map fun blob =>
        (e.hasher.function, .ofSize e.hash blob.length), s') := by
  unfold bring
  rw [hparse]
  dsimp only
  rw [hfetch]

end

/-- The bodies that a network serves are short, as all that can be held is. -/
def ServesShort (network : Network ν) : Prop :=
  ∀ address s fetched, (network.get address s).1 = .ok fetched → fetched.body.Short

/-- Where the blob of the checksum is wanted, a place is retrieved just if it brings it, and one
that does not leaves the store as it was. -/
theorem retrieve_eq_bring (hcap : r.config.maxBufferedBytes = none)
    (hshort : ServesShort out.network) (hwanted : Wanted w.store e.hasher e.hash) :
    (r.retrieve out (some (e.hasher, some e.hash)) uri w).1 =
        (bring out.network e uri w.network).1 ∧
      ((r.retrieve out (some (e.hasher, some e.hash)) uri w).1 = none →
        (r.retrieve out (some (e.hasher, some e.hash)) uri w).2.store = w.store ∧
          (r.retrieve out (some (e.hasher, some e.hash)) uri w).2.network =
            (bring out.network e uri w.network).2) := by
  cases hweb : isWeb uri with
  | false =>
    rw [retrieve_of_not_web hweb, bring_of_not_web hweb]
    exact ⟨rfl, fun _ => ⟨rfl, rfl⟩⟩
  | true =>
    obtain ⟨address, hparse⟩ := isWeb_iff.1 hweb
    obtain ⟨answer, s, hfetch⟩ : ∃ answer s, out.network.get address w.network = (answer, s) :=
      ⟨_, _, rfl⟩
    have hshort := hshort address w.network
    rw [hfetch] at hshort
    rw [bring_of_web hparse hfetch]
    cases answer with
    | error cause =>
      rw [retrieve_of_failed hparse hfetch nofun]
      exact ⟨rfl, fun _ => ⟨rfl, rfl⟩⟩
    | ok fetched =>
      have hbind : (Except.ok fetched : Except FetchError FetchedBody).toOption.bind (blobOf? e) =
        blobOf? e fetched := rfl
      rw [hbind]
      cases hsuccess : fetched.isSuccess with
      | false =>
        rw [retrieve_of_failed hparse hfetch fun _ h => Except.ok.inj h ▸ hsuccess]
        cases hblob : blobOf? e fetched with
        | some blob => exact nomatch hsuccess.symm.trans (blobOf?_eq_some_iff.1 hblob).1
        | none => exact ⟨rfl, fun _ => ⟨rfl, rfl⟩⟩
      | true =>
        rw [retrieve_of_fetched hparse hfetch hsuccess]
        cases hblob : blobOf? e fetched with
        | some blob =>
          rw [handOver_of_blobOf hcap (hshort fetched rfl) hblob]
          exact ⟨rfl, nofun⟩
        | none =>
          have hnothing : handOver out e.hasher (r.download e.hasher (some e.hash) fetched)
              (asked w s) = (none, asked w s) :=
            handOver_of_blobOf_none (w := asked w s) hsuccess (hshort fetched rfl) hwanted hblob
          rw [hnothing]
          exact ⟨rfl, fun _ => ⟨rfl, rfl⟩⟩

/-- The first place that is retrieved for a wanted blob is the first that brings it. -/
theorem firstSuccess_retrieve (uris : List String) (hcap : r.config.maxBufferedBytes = none)
    (hshort : ServesShort out.network) (hwanted : Wanted w.store e.hasher e.hash) :
    (firstSuccess (r.retrieve out (some (e.hasher, some e.hash))) uris w).1 =
      (firstSuccess (bring out.network e) uris w.network).1 := by
  -- Places that fail leave the store as it was, so that the blob is still wanted at the next.
  have hattempt (uri : String) (_ : uri ∈ uris) (s : World π ν) (n : ν)
      (hs : s.store = w.store ∧ s.network = n) :
      (r.retrieve out (some (e.hasher, some e.hash)) uri s).1 = (bring out.network e uri n).1 ∧
        ((r.retrieve out (some (e.hasher, some e.hash)) uri s).1 = none →
          (r.retrieve out (some (e.hasher, some e.hash)) uri s).2.store = w.store ∧
            (r.retrieve out (some (e.hasher, some e.hash)) uri s).2.network =
              (bring out.network e uri n).2) ∧
        ∀ d, (r.retrieve out (some (e.hasher, some e.hash)) uri s).1 = some d → True := by
    obtain ⟨hstore, rfl⟩ := hs
    obtain ⟨hresult, hfail⟩ := retrieve_eq_bring hcap hshort (hstore ▸ hwanted)
    refine ⟨hresult, fun hnone => ?_, fun _ _ => trivial⟩
    exact ⟨(hfail hnone).1.trans hstore, (hfail hnone).2⟩
  obtain ⟨found, t, t', hretrieved, hbrought, -, -⟩ := firstSuccess_related
    (R := fun (s : World π ν) (n : ν) => s.store = w.store ∧ s.network = n)
    (Q := fun _ _ _ => True) ⟨rfl, rfl⟩ hattempt
  rw [hretrieved, hbrought]

/-! ## Checksums that are not found -/

/-- None of the checksums of a request is found in the store. -/
def NoneFound (r : Resolver) (network : Network ν) (request : FetchRequest) (w : World π ν) :
    Prop :=
  ∀ e ∈ r.requestChecksums request,
    ((Cache.contains .cas e.hasher e.hash none).run ⟨.absent, network⟩ w).1 = none

theorem knownSize_of_not_contained
    (h : ((Cache.contains .cas e.hasher e.hash none).run out w).1 = none) :
    (knownSize out e w).1 = none := by
  have htold : (w.ask out (.contains .cas e.hasher e.hash none)).1 = none := h
  unfold knownSize
  dsimp only
  rw [htold]

/-- Look-ups that find nothing leave the entries, the marks and the network as they were. -/
theorem firstSuccess_of_noneFound {request : FetchRequest} (h : r.NoneFound network request w) :
    ∃ w', firstSuccess (knownSize ⟨.absent, network⟩) (r.requestChecksums request) w = (none, w') ∧
      w'.store.entries = w.store.entries ∧ w'.store.inFlight = w.store.inFlight ∧
      w'.network = w.network := by
  have hnone : firstEntry w.store.entries (r.requestChecksums request) = none := by
    refine List.findSome?_eq_none_iff.2 fun e he => ?_
    rw [← (knownSize_absent network e w).1, knownSize_of_not_contained (h e he)]
    rfl
  have hfirst : _ = firstEntry w.store.entries _ :=
    (firstSuccess_knownSize network (r.requestChecksums request) w).1
  rw [hnone] at hfirst
  refine ⟨_, Prod.ext hfirst rfl, ?_⟩
  let P (s : World π ν) : Prop := s.store.entries = w.store.entries ∧
    s.store.inFlight = w.store.inFlight ∧ s.network = w.network
  refine (firstSuccess_none (P := P) ⟨rfl, rfl, rfl⟩ ?_ (Prod.ext hfirst rfl)).1
  intro e _ s hs hmiss
  obtain ⟨hempty, hfind⟩ := absent_of_knownSize hmiss
  have htold : (⟨.absent, network⟩ : Surroundings π ν).proxy.contains .cas e.hash none s.proxy =
    (none, s.proxy) := rfl
  rw [knownSize_of_missing hempty hfind htold]
  exact ⟨(s.entries_looked _ _).trans hs.1, (s.store.inFlight_lookup _).trans hs.2.1, hs.2.2⟩

/-! ## Requests -/

variable {request : FetchRequest}

theorem requestTarget_of_last (hlast : (r.requestChecksums request).getLast? = some e) :
    r.requestTarget request = some (e.hasher, some e.hash) := by
  unfold requestTarget
  rw [hlast]
  rfl

theorem wanted_of_noneFound {w' : World π ν}
    (hlast : (r.requestChecksums request).getLast? = some e)
    (hnone : r.NoneFound network request w) (hidle : w.store.inFlight = [])
    (hentries : w'.store.entries = w.store.entries)
    (hmarks : w'.store.inFlight = w.store.inFlight) : Wanted w'.store e.hasher e.hash := by
  have hmiss := knownSize_of_not_contained (hnone e (List.mem_of_getLast? hlast))
  obtain ⟨hempty, habsent⟩ := absent_of_knownSize hmiss
  refine ⟨hempty, ?_, ?_⟩
  · rw [hentries]
    exact habsent
  · rw [hmarks, hidle]
    exact List.not_mem_nil

/-- A request of which no checksum is found is answered with the first of its places that brings the
blob of the last one. -/
theorem answer_of_last (hcap : r.config.maxBufferedBytes = none) (hshort : ServesShort network)
    (hcomplete : none ∉ request.qualifiers)
    (hlast : (r.requestChecksums request).getLast? = some e) (hidle : w.store.inFlight = [])
    (hnone : r.NoneFound network request w) :
    ((r.fetchBlobOperation (some request)).run ⟨.absent, network⟩ w).1 =
      .ok (downloaded (firstSuccess (bring network e) request.uris w.network).1) := by
  have hsilent : r.NoneFound network request w.silent := by
    intro e he
    have hask := w.ask_silent ⟨.absent, network⟩ (.contains .cas e.hasher e.hash none)
    exact (congrArg Prod.fst hask).trans (hnone e he)
  obtain ⟨w', hfirst, hentries, hmarks, hnetwork⟩ := firstSuccess_of_noneFound hsilent
  have hwanted : Wanted w'.store e.hasher e.hash :=
    wanted_of_noneFound hlast hsilent hidle hentries hmarks
  have hplaces : (firstSuccess (r.retrieve ⟨.absent, network⟩ (some (e.hasher, some e.hash)))
      request.uris w').1 = (firstSuccess (bring network e) request.uris w.network).1 := by
    rw [← show w'.network = w.network from hnetwork]
    exact firstSuccess_retrieve request.uris hcap hshort hwanted
  rw [(run_eq_specified _ _ _).1]
  unfold specified
  dsimp only
  rw [if_neg hcomplete, hfirst]
  dsimp only
  rw [requestTarget_of_last hlast, ← hplaces]
  generalize firstSuccess (r.retrieve _ _) request.uris w' = first
  obtain ⟨_ | place, w''⟩ := first
  · rfl
  · rfl

/-- What a request is answered of which no checksum is found, and of which the last one is `e`. -/
structure LastDecides (r : Resolver) (network : Network ν) (request : FetchRequest) (e : Expected)
    (w : World π ν) : Prop where
  /-- It is answered with the first of its places that brings the blob of `e`, or not at all. -/
  answer : ((r.fetchBlobOperation (some request)).run ⟨.absent, network⟩ w).1 =
    .ok (downloaded (firstSuccess (bring network e) request.uris w.network).1)
  /-- A place brings the blob of `e` just if it serves it. -/
  brings : ∀ uri s d, (bring network e uri s).1 = some d ↔
    ∃ blob, Serves network e uri s blob ∧ d = (e.hasher.function, .ofSize e.hash blob.length)
  /-- It is resolved if one of its places serves that blob whenever it is asked. -/
  resolved : (∃ uri ∈ request.uris, ∀ s, ∃ blob, Serves network e uri s blob) →
    ∃ response, ((r.fetchBlobOperation (some request)).run ⟨.absent, network⟩ w).1 = .ok response ∧
      response.status = .ok
  /-- Another request for the same places is answered alike, whatever its other checksums are and
  in whichever order, if its last one is `e` and none is found. -/
  others : ∀ other : FetchRequest, none ∉ other.qualifiers → other.uris = request.uris →
    (r.requestChecksums other).getLast? = some e → r.NoneFound network other w →
    ((r.fetchBlobOperation (some other)).run ⟨.absent, network⟩ w).1 =
      ((r.fetchBlobOperation (some request)).run ⟨.absent, network⟩ w).1

/-- In a store without a proxy in which nothing is being written, and without a cap on what is held
in memory: where none of the checksums of a request is found, the last one decides. -/
theorem last_checksum_decides (r : Resolver) (network : Network ν) (request : FetchRequest)
    (e : Expected) (w : World π ν) (hcap : r.config.maxBufferedBytes = none)
    (hshort : ServesShort network) (hcomplete : none ∉ request.qualifiers)
    (hlast : (r.requestChecksums request).getLast? = some e) (hidle : w.store.inFlight = [])
    (hnone : r.NoneFound network request w) : r.LastDecides network request e w := by
  have hanswer := answer_of_last hcap hshort hcomplete hlast hidle hnone
  refine ⟨hanswer, fun uri s d => bring_iff, fun ⟨uri, huri, hserves⟩ => ?_,
    fun other hcomplete' huris hlast' hnone' => ?_⟩
  · cases hfound : firstSuccess (bring network e) request.uris w.network with
    | mk found s =>
      cases found with
      | some place =>
        rw [hfound] at hanswer
        exact ⟨_, hanswer, rfl⟩
      | none =>
        obtain ⟨-, hfailed⟩ := firstSuccess_none (P := fun _ => True) trivial
          (fun _ _ _ _ _ => trivial) hfound
        obtain ⟨s, -, hbring⟩ := hfailed uri huri
        obtain ⟨blob, hblob⟩ := hserves s
        exact nomatch hbring.symm.trans (bring_iff.2 ⟨blob, hblob, rfl⟩)
  · rw [answer_of_last hcap hshort hcomplete' hlast' hidle hnone', huris, hanswer]

/-- The checksum of the blob comes last. -/
theorem last_checksum_decides_of_hello :
    let uri := "http://[::1]/"
    let network : Network Unit :=
      ⟨fun _ s => (.ok ⟨200, some 5, .ofBytes (Utf8.ofString "hello")⟩, s)⟩
    let w : World Unit Unit := ⟨.empty, (), (), []⟩
    let r : Resolver := ⟨.standard, {}⟩
    let e : Expected := ⟨.ofAlgorithm .sha256 .sha256,
      "2cf24dba5fb0a30e26e83b2ac5b9e29e1b161e5c1fa7425e73043362938b9824"⟩
    let request : FetchRequest :=
      { qualifiers := [some (.checksum "md5-AAAAAAAAAAAAAAAAAAAAAA=="),
          some (.checksum "sha256-LPJNul+wow4m6DsqxbninhsWHlwfp0JecwQzYpOLmCQ=")]
        uris := ["ftp://[::1]/", uri] }
    let answer := ((r.fetchBlobOperation (some request)).run ⟨.absent, network⟩ w).1
    (r.config.maxBufferedBytes = none ∧ ServesShort network ∧ none ∉ request.qualifiers ∧
      (r.requestChecksums request).getLast? = some e ∧ w.store.inFlight = [] ∧
      r.NoneFound network request w) ∧
    answer = .ok (.found .sha256 (.ofSize e.hash 5) (some uri)) ∧
    r.LastDecides network request e w := by
  intro uri network w r e request answer
  have hshort : ServesShort network := by
    intro address s fetched hfetch
    obtain rfl := Except.ok.inj hfetch
    show 5 < _
    decide
  have hlast : (r.requestChecksums request).getLast? = some e := by decide +kernel
  have hnone : r.NoneFound network request w := by
    unfold NoneFound
    decide +kernel
  have hdecides : r.LastDecides network request e w :=
    last_checksum_decides r network request e w rfl hshort (by decide) hlast rfl hnone
  refine ⟨⟨rfl, hshort, by decide, hlast, rfl, hnone⟩, ?_, hdecides⟩
  decide +kernel

/-- A place serves the blob of the first of two checksums.  It does not count, for the last one is
another; in the other order, the blob is taken. -/
theorem earlier_checksum_does_not_count :
    let uri := "http://[::1]/"
    let blob := Utf8.ofString "hello"
    let network : Network Unit := ⟨fun _ s => (.ok ⟨200, some 5, .ofBytes blob⟩, s)⟩
    let w : World Unit Unit := ⟨.empty, (), (), []⟩
    let r : Resolver := ⟨.standard, {}⟩
    let first : Option Qualifier :=
      some (.checksum "sha256-LPJNul+wow4m6DsqxbninhsWHlwfp0JecwQzYpOLmCQ=")
    let second : Option Qualifier := some (.checksum "md5-AAAAAAAAAAAAAAAAAAAAAA==")
    let request : FetchRequest := { qualifiers := [first, second], uris := [uri] }
    let turned : FetchRequest := { qualifiers := [second, first], uris := [uri] }
    (r.NoneFound network request w ∧ r.NoneFound network turned w) ∧
    (∃ e ∈ r.requestChecksums request, ∀ s, Serves network e uri s blob) ∧
    ((r.fetchBlobOperation (some request)).run ⟨.absent, network⟩ w).1 = .ok .notFound ∧
    ∃ response, ((r.fetchBlobOperation (some turned)).run ⟨.absent, network⟩ w).1 = .ok response ∧
      response.status = .ok := by
  intro uri blob network w r first second request turned
  obtain ⟨address, hparse⟩ : ∃ address, Url.parse uri = .ok (.web address) :=
    isWeb_iff.1 (by decide +kernel)
  refine ⟨⟨?_, ?_⟩, ?_, by decide +kernel, ?_⟩
  · unfold NoneFound
    decide +kernel
  · unfold NoneFound
    decide +kernel
  · refine ⟨⟨.ofAlgorithm .sha256 .sha256,
      "2cf24dba5fb0a30e26e83b2ac5b9e29e1b161e5c1fa7425e73043362938b9824"⟩, by decide +kernel,
      fun s => .served address _ hparse rfl (by decide) (Reader.readAll_ofBytes blob) ?_ ?_⟩
    · intro n hn
      exact (Option.some.inj hn).symm
    · decide +kernel
  · exact ⟨.found .sha256 (.ofSize
      "2cf24dba5fb0a30e26e83b2ac5b9e29e1b161e5c1fa7425e73043362938b9824" 5) (some uri),
      by decide +kernel, rfl⟩

end Resolver

end AssetCache
