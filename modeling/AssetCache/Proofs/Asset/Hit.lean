import AssetCache.Proofs.Asset.Steps
import AssetCache.Proofs.Service.Settled

/-!
# Checksums that are found

A checksum resolves a request by what the store has, which was verified; by what the proxy gives,
which is verified then; or by what the proxy says that it has, which nobody looks at.  In the last
case the request is answered well if the proxy can give what it says, and otherwise the answer names
a blob that cannot be had.

Results:
1. `held_or_claimed`: after a checksum was found, the store has the blob, or the proxy claims it.
2. `hit_truthful_unless_forged`: over a proxy that keeps blobs in memory, a request that is answered
   without a place is answered truthfully, unless the proxy keeps another blob under the digest.
-/

namespace AssetCache.Resolver

open Resolution (Does)
open Cache (Held)

variable {π ν : Type} {H : List Hasher} {r : Resolver} {e : Expected} {hasher : Hasher}
  {hash : String} {size : Nat} {out : Surroundings π ν} {w : World π ν}
  {t : List Action.interface.Exchange}

/-- A blob has this digest by this hasher, or by one of `H` that shares its directory. -/
def DigestedAs (H : List Hasher) (hasher : Hasher) (hash : String) (blob : Bytes) : Prop :=
  ∃ g ∈ H, g.dir = hasher.dir ∧ g.hash blob = hash

theorem DigestedAs.hash_eq {blob : Bytes} (hsep : Separate H) (hmem : hasher ∈ H)
    (h : DigestedAs H hasher hash blob) : hasher.hash blob = hash := by
  obtain ⟨g, hg, hdir, hhash⟩ := h
  exact hsep.ownDir g hg hasher hmem hdir ▸ hhash

theorem digestedAs_of_vouched {blob : Bytes} (hslash : '/' ∉ hash.toList)
    (h : Vouched H (Entry.blobPath .cas hasher hash) blob) : DigestedAs H hasher hash blob := by
  obtain ⟨kind, g, hg, x, hpath, hblob⟩ := h
  obtain rfl := Entry.kind_eq_of_blobPath_eq hpath
  obtain rfl := hblob rfl
  obtain ⟨-, hdir, rfl⟩ :=
    Entry.blobPath_injective_of_hash hslash (g.slash_not_mem_hash blob) hpath
  exact ⟨g, hg, hdir.symm, rfl⟩

/-- The proxy states the size of a blob that the store does not have. -/
structure Claimed (out : Surroundings π ν) (w w' : World π ν) (e : Expected) (size : Nat) :
    Prop where
  nonempty : e.hasher.isEmptyHash e.hash = false
  absent : w'.store.entries.find? (Entry.blobPath .cas e.hasher e.hash) = none
  told : (out.proxy.contains .cas e.hash none w.proxy).1 = some (.known size)
  proxy : w'.proxy = (out.proxy.contains .cas e.hash none w.proxy).2

theorem held_or_claimed (hsound : Sound H w.store) (hmem : e.hasher ∈ H)
    (hvalidate : e.hasher.validate e.hash = .ok ()) (hallows : w.Allows out t) (h : Hit e t size) :
    (∃ blob, Held (w.after out t).store .cas e.hasher e.hash blob ∧ blob.length = size ∧
        DigestedAs H e.hasher e.hash blob) ∨
      Claimed out w (w.after out t) e size := by
  have hslash := Hasher.slash_not_mem_of_validate hvalidate
  have hlookup := w.store.answer_lookup (Entry.blobPath .cas e.hasher e.hash)
  have hentries := w.store.entries_lookup (Entry.blobPath .cas e.hasher e.hash)
  cases h with
  | empty hempty =>
    refine .inl ⟨[], .empty (isEmptyBlob_cas _ _ ▸ hempty), rfl, e.hasher, hmem, rfl, ?_⟩
    rw [Hasher.hash_nil, Hasher.eq_empty_of_isEmptyHash hempty]
  | stored blob hempty =>
    have hfind := hlookup.symm.trans hallows.1
    refine .inl ⟨blob, .entry blob (isEmptyBlob_cas _ _ ▸ hempty) ?_, rfl,
      digestedAs_of_vouched hslash (hsound _ _ hfind)⟩
    exact (congrArg (EntryMap.find? · _) hentries).trans hfind
  | claimed size hempty =>
    have hfind := hlookup.symm.trans hallows.1
    exact .inr ⟨hempty, (congrArg (EntryMap.find? · _) hentries).trans hfind, hallows.2.1, rfl⟩
  | arrived blob hempty =>
    -- Nothing comes between the two look-ups here.
    have hnone := (congrArg (EntryMap.find? · _) hentries).trans (hlookup.symm.trans hallows.1)
    have hsome := ((w.store.lookup _).2.answer_lookup _).symm.trans hallows.2.2.1
    exact nomatch hsome.symm.trans hnone
  | filled body n blob hempty hverify =>
    refine .inl ⟨blob, .entry blob (isEmptyBlob_cas _ _ ▸ hempty) ?_, rfl, e.hasher, hmem, rfl,
      Cache.hash_eq_of_verify hverify⟩
    exact EntryMap.find?_insert_self ..

/-! ## Over a proxy that keeps blobs in memory -/

/-- The store does not have a blob, and the proxy tells the size of one that it keeps under the
digest of the blob and that has another digest. -/
structure Forged (hide : Bool) (w : World Proxy.Recording ν) (hasher : Hasher) (hash : String)
    (blob : Bytes) : Prop where
  told : hide = false
  nonempty : hasher.isEmptyHash hash = false
  absent : w.store.entries.find? (Entry.blobPath .cas hasher hash) = none
  kept : w.proxy.find? .cas hash = some blob
  other : hasher.hash blob ≠ hash

/-- What a world gives under a digest is the whole of a blob that has it and the stated size. -/
def Given (H : List Hasher) (out : Surroundings π ν) (w : World π ν) (hasher : Hasher)
    (digest : BlobDigest) : Prop :=
  ∃ blob reader,
    ((Cache.get .cas hasher digest.hash none 0).run out w).1 =
      .ok (some (reader, .known blob.length)) ∧
    reader.readAll = .ok blob ∧ DigestedAs H hasher digest.hash blob ∧
    digest = .ofSize digest.hash blob.length

variable {hide : Bool} {network : Network ν} {v : World Proxy.Recording ν} {blob : Bytes}

theorem given_of_held (hheld : Held w.store .cas hasher hash blob)
    (hdigest : DigestedAs H hasher hash blob) :
    Given H out w hasher (.ofSize hash blob.length) := by
  refine ⟨blob, .ofBytes blob, ?_, Reader.readAll_ofBytes blob, hdigest, rfl⟩
  exact Cache.get_of_held hheld

theorem get_of_kept (hempty : hasher.isEmptyHash hash = false)
    (habsent : v.store.entries.find? (Entry.blobPath .cas hasher hash) = none)
    (hkept : v.proxy.find? .cas hash = some blob) (hlength : blob.length ≤ Decimal.largest) :
    ((Cache.get .cas hasher hash none 0).run ⟨.recording hide, network⟩ v).1 =
      if hasher.hash blob = hash then .ok (some (.ofBytes blob, .known blob.length))
      else .error (.hashMismatch hash (hasher.hash blob)) := by
  have hgiven : ((Proxy.recording hide).get .cas hash none v.proxy).1 =
      .ok (some (.ofBytes blob, Proxy.recordedSize hide blob)) := by
    show Except.ok ((v.proxy.find? .cas hash).map _) = _
    rw [hkept]
    rfl
  have hsize : ∀ n, (Proxy.recordedSize hide blob).known?.or none = some n → n = blob.length := by
    intro n hn
    unfold Proxy.recordedSize at hn
    split at hn
    · exact nomatch hn
    · exact (Option.some.inj hn).symm
  rw [Cache.run_get, Cache.find_of_given (isEmptyBlob_cas hasher hash ▸ hempty) habsent hgiven,
    Cache.verify_ofBytes hsize hlength]
  split
  · rfl
  · rfl

theorem kept_of_claimed {v' : World Proxy.Recording ν}
    (h : Claimed ⟨.recording hide, network⟩ v v' e size) :
    hide = false ∧ ∃ blob, v'.proxy.find? .cas e.hash = some blob ∧ blob.length = size := by
  have hproxy : v'.proxy = v.proxy := h.proxy
  have htold : (v.proxy.find? .cas e.hash).map (Proxy.recordedSize hide) = some (.known size) :=
    h.told
  obtain ⟨blob, hfind, hsize⟩ := Option.map_eq_some_iff.1 htold
  unfold Proxy.recordedSize at hsize
  split at hsize
  next => exact nomatch hsize
  next hhide =>
    refine ⟨Bool.not_eq_true _ ▸ hhide, blob, hproxy ▸ hfind, ?_⟩
    exact BlobSize.known.inj hsize

/-- A world gives the blob that a response names, unless it is forged; and then it gives none. -/
def GivenUnlessForged (H : List Hasher) (r : Resolver) (hide : Bool) (network : Network ν)
    (v : World Proxy.Recording ν) (response : FetchBlobResponse) : Prop :=
  ∃ hasher digest,
    r.registry.get response.digestFunction = .ok hasher ∧ response.blobDigest = some digest ∧
    ((∀ blob, ¬ Forged hide v hasher digest.hash blob) →
      Given H ⟨.recording hide, network⟩ v hasher digest) ∧
    ∀ blob, Forged hide v hasher digest.hash blob →
      digest = .ofSize digest.hash blob.length ∧
      ((Cache.get .cas hasher digest.hash none 0).run ⟨.recording hide, network⟩ v).1 =
        .error (.hashMismatch digest.hash (hasher.hash blob))

theorem not_forged_of_held {found : Bytes} (h : Held v.store .cas hasher hash found) :
    ¬ Forged hide v hasher hash blob := by
  intro hforged
  cases h with
  | empty hempty =>
    rw [isEmptyBlob_cas] at hempty
    exact nomatch hforged.nonempty.symm.trans hempty
  | entry _ _ hfind => exact nomatch hforged.absent.symm.trans hfind

theorem given_of_claimed {v' : World Proxy.Recording ν} (hmem : e.hasher ∈ H)
    (h : Claimed ⟨.recording hide, network⟩ v v' e size)
    (hlength : ∀ blob, v'.proxy.find? .cas e.hash = some blob → blob.length ≤ Decimal.largest)
    (hnot : ∀ blob, ¬ Forged hide v' e.hasher e.hash blob) :
    Given H ⟨.recording hide, network⟩ v' e.hasher (.ofSize e.hash size) := by
  obtain ⟨hhide, blob, hkept, rfl⟩ := kept_of_claimed h
  have hhash : e.hasher.hash blob = e.hash := by
    by_cases hother : e.hasher.hash blob = e.hash
    · exact hother
    · exact absurd ⟨hhide, h.nonempty, h.absent, hkept, hother⟩ (hnot blob)
  refine ⟨blob, .ofBytes blob, ?_, Reader.readAll_ofBytes blob, ⟨e.hasher, hmem, rfl, hhash⟩, rfl⟩
  exact (get_of_kept h.nonempty h.absent hkept (hlength blob hkept)).trans (if_pos hhash)

theorem error_of_forged {v' : World Proxy.Recording ν}
    (h : Claimed ⟨.recording hide, network⟩ v v' e size)
    (hlength : ∀ blob, v'.proxy.find? .cas e.hash = some blob → blob.length ≤ Decimal.largest)
    (hforged : Forged hide v' e.hasher e.hash blob) :
    BlobDigest.ofSize e.hash size = .ofSize e.hash blob.length ∧
      ((Cache.get .cas e.hasher e.hash none 0).run ⟨.recording hide, network⟩ v').1 =
        .error (.hashMismatch e.hash (e.hasher.hash blob)) := by
  obtain ⟨-, found, hkept, rfl⟩ := kept_of_claimed h
  obtain rfl : found = blob := Option.some.inj (hkept.symm.trans hforged.kept)
  refine ⟨rfl, ?_⟩
  exact (get_of_kept h.nonempty h.absent hkept (hlength found hkept)).trans (if_neg hforged.other)

/-- Where requests come one after another over a proxy that keeps blobs in memory, the store gives
right after a request that is answered without a place all of the blob that the answer names, with
its digest and of its length; only where the proxy keeps another blob under that digest, and told
its size, the answer names what cannot be had. -/
theorem hit_truthful_unless_forged (hide : Bool) (network : Network ν)
    (v : World Proxy.Recording ν) {request? : Option FetchRequest} {response : FetchBlobResponse}
    (hsettled : Settled H v.store) (hreg : r.registry.hashers ⊆ H)
    (hrun : ((r.fetchBlobOperation request?).run ⟨.recording hide, network⟩ v).1 = .ok response)
    (hok : response.status = .ok) (huri : response.uri = none)
    (hsizes : ∀ hash blob,
      ((r.fetchBlobOperation request?).run ⟨.recording hide, network⟩ v).2.proxy.find? .cas hash =
        some blob → blob.length ≤ Decimal.largest) :
    GivenUnlessForged H r hide network
      ((r.fetchBlobOperation request?).run ⟨.recording hide, network⟩ v).2 response := by
  let out : Surroundings Proxy.Recording ν := ⟨.recording hide, network⟩
  have hdoes : Does (r.fetchBlob request?) ((r.fetchBlobOperation request?).history out v)
      (.ok response) := does_history hrun
  have hallows := Operation.allows_history out (r.fetchBlobOperation request?) v
  rw [← Operation.after_history] at hsizes ⊢
  generalize (r.fetchBlobOperation request?).history out v = t at *
  obtain ⟨request, rfl, e, he, size, before, this, rfl, hquiet, hhit, rfl⟩ :=
    resolved_of_does hok huri hdoes
  obtain ⟨hmem, hvalidate⟩ := of_mem_checksums he
  obtain ⟨hfirst, -⟩ := (World.allows_append v).1 hallows
  obtain ⟨hbefore, hthis⟩ := (World.allows_append v).1 hfirst
  rw [World.after_append, World.after_append] at hsizes ⊢
  have hsound : Sound H (v.after out before).store :=
    hsettled.sound.of_entries_eq (hquiet out v hbefore).1
  refine ⟨e.hasher, .ofSize e.hash size, Registry.get_function hmem, rfl, ?_⟩
  -- The event that is told last changes neither the store nor the proxy.
  rcases held_or_claimed hsound (hreg hmem) hvalidate hthis hhit with
    ⟨blob, hheld, rfl, hdigested⟩ | hclaimed
  · exact ⟨fun _ => given_of_held hheld hdigested,
      fun _ hforged => absurd hforged (not_forged_of_held hheld)⟩
  · have hclaimed' : Claimed out (v.after out before)
        (((v.after out before).after out this).after out
          [⟨.log (.checksumResolved e.hash size), ()⟩]) e size :=
      ⟨hclaimed.nonempty, hclaimed.absent, hclaimed.told, hclaimed.proxy⟩
    exact ⟨given_of_claimed (hreg hmem) hclaimed' (hsizes _),
      fun _ hforged => error_of_forged hclaimed' (hsizes _) hforged⟩

/-- The proxy keeps the blob that it is asked for. -/
theorem hit_truthful_of_kept_blob :
    let hash := "2cf24dba5fb0a30e26e83b2ac5b9e29e1b161e5c1fa7425e73043362938b9824"
    let v : World Proxy.Recording Unit :=
      ⟨.empty, Proxy.Recording.empty.seed .cas hash (Utf8.ofString "hello"), (), []⟩
    let r : Resolver := ⟨.standard, {}⟩
    let request : FetchRequest :=
      { qualifiers := [some (.checksum "sha256-LPJNul+wow4m6DsqxbninhsWHlwfp0JecwQzYpOLmCQ=")] }
    let done := (r.fetchBlobOperation (some request)).run ⟨.recording false, .down⟩ v
    ∃ response : FetchBlobResponse,
      (Settled Registry.standard.hashers v.store ∧
        r.registry.hashers ⊆ Registry.standard.hashers ∧ done.1 = .ok response ∧
        response.status = .ok ∧ response.uri = none ∧
        ∀ hash blob, done.2.proxy.find? .cas hash = some blob → blob.length ≤ Decimal.largest) ∧
      GivenUnlessForged Registry.standard.hashers r false .down done.2 response := by
  intro hash v r request done
  have hrun : done.1 = .ok (.found .sha256 (.ofSize hash 5) none) := by decide +kernel
  have hsizes : ∀ hash blob, done.2.proxy.find? .cas hash = some blob →
      blob.length ≤ Decimal.largest := by
    have hall : ∀ entry ∈ done.2.proxy.blobs.entries, entry.2.length ≤ Decimal.largest := by
      decide +kernel
    intro hash blob hfind
    exact hall _ (EntryMap.mem_of_findIn hfind)
  exact ⟨_, ⟨.empty, fun _ h => h, hrun, rfl, rfl, hsizes⟩,
    hit_truthful_unless_forged false .down v .empty (fun _ h => h) hrun rfl rfl hsizes⟩

/-- The proxy keeps another blob under a digest: the request for it is answered, and the blob is not
given.  A hasher shares the directory of another: the blob that is given has its digest by the
other. -/
theorem hit_not_given_if_forged :
    let out : Surroundings Proxy.Recording Unit := ⟨.recording false, .down⟩
    let r : Resolver := ⟨.standard, {}⟩
    (let hash := "00000000000000000000000000000000"
      let v : World Proxy.Recording Unit :=
        ⟨.empty, Proxy.Recording.empty.seed .cas hash (Utf8.ofString "forged"), (), []⟩
      let request : FetchRequest :=
        { qualifiers := [some (.checksum "md5-AAAAAAAAAAAAAAAAAAAAAA==")] }
      let done := (r.fetchBlobOperation (some request)).run out v
      Settled Registry.standard.hashers v.store ∧
        done.1 = .ok (.found .md5 (.ofSize hash 6) none) ∧
        ((Cache.get .cas (.ofAlgorithm .md5 .md5) hash none 0).run out done.2).1 =
          .error (.hashMismatch hash "ea76aa1d2eceb24df1cae061feb57188")) ∧
    (let other : Hasher := ⟨.sha256, "sha256", .blake3, "sha256"⟩
      let blob := Utf8.ofString "hello"
      let hash := "ea8f163db38682925e4491c5e58d4bb3506ef8c14eb78a86e908c5624a67200f"
      let v := ((Cache.put .cas other hash 5 (.ofBytes blob)).run out ⟨.empty, .empty, (), []⟩).2
      let request : FetchRequest :=
        { qualifiers := [some (.checksum "sha256-6o8WPbOGgpJeRJHF5Y1Ls1Bu+MFOt4qG6QjFYkpnIA8=")] }
      let done := (r.fetchBlobOperation (some request)).run out v
      Settled (other :: Registry.standard.hashers) v.store ∧
        done.1 = .ok (.found .sha256 (.ofSize hash 5) none) ∧
        ((Cache.get .cas (.ofAlgorithm .sha256 .sha256) hash none 0).run out done.2).1 =
          .ok (some (.ofBytes blob, .known 5)) ∧
        (Hasher.ofAlgorithm .sha256 .sha256).hash blob ≠ hash) := by
  intro out r
  constructor
  · intro hash v request done
    exact ⟨.empty, by decide +kernel, by decide +kernel⟩
  · intro other blob hash v request done
    have hother : ∀ h ∈ (Job.put .cas other hash 5 (.ofBytes blob)).hashers,
        h ∈ other :: Registry.standard.hashers :=
      fun h hh => List.mem_cons.2 (.inl (List.mem_singleton.1 hh))
    exact ⟨.after out _ (.put .cas other hash 5 (.ofBytes blob)) hother .empty, by decide +kernel,
      by decide +kernel, by decide +kernel⟩

end AssetCache.Resolver
