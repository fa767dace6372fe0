import AssetCache.Proofs.Asset.Footprint

/-!
# Candidates that cannot be used

A request may name checksums that cannot be read, qualifiers of other names, and places that are no
web addresses.  Such candidates are passed over, and nothing comes of them but events: not the
answer, nor what is stored, asked for or counted.  The same goes for the digest function of a
request that has a checksum, which only says how a download is digested where there is none.

Results:
1. `firstSuccess_filter`: attempts that fail and change nothing can be left out.
2. `sameCandidates_usable`: wherever they stand, candidates that cannot be used can be taken out.
3. `resolved_by_candidates`: requests with the same candidates are resolved alike.
-/

namespace AssetCache

variable {π ν α β : Type}

theorem firstSuccess_filter {σ : Type} {attempt : α → σ → Option β × σ} {p : α → Bool} {l : List α}
    (hskip : ∀ a ∈ l, p a = false → ∀ s, attempt a s = (none, s)) (s : σ) :
    firstSuccess attempt (l.filter p) s = firstSuccess attempt l s := by
  induction l generalizing s with
  | nil => rfl
  | cons a rest ih =>
    have hrest := ih fun a ha => hskip a (List.mem_cons_of_mem _ ha)
    cases hp : p a with
    | false =>
      rw [List.filter_cons_of_neg (by simp [hp]),
        firstSuccess_cons_none (hskip a List.mem_cons_self hp s), hrest]
    | true =>
      rw [List.filter_cons_of_pos hp, firstSuccess, firstSuccess]
      split
      · rfl
      · exact hrest _

namespace Resolver

/-! ## What can be used -/

/-- The checksum that a qualifier is, if it can be read. -/
def readQualifier (r : Resolver) (q : Option Qualifier) : Option Expected :=
  q.bind fun q =>
    if q.name = Qualifier.checksumName then (r.parseChecksum q.value).toOption else none

/-- Whether a place is a web address. -/
def isWeb (uri : String) : Bool :=
  match Url.parse uri with
  | .ok (.web _) => true
  | _ => false

/-- The places of a request that can be fetched from, in order. -/
def webPlaces (request : FetchRequest) : List String := request.uris.filter isWeb

/-- A request without its candidates that cannot be used. -/
def usable (r : Resolver) (request : FetchRequest) : FetchRequest :=
  { request with
    qualifiers := request.qualifiers.filter fun q => (r.readQualifier q).isSome
    uris := webPlaces request }

/-- Two requests have the same candidates, and the same hint if it is needed. -/
structure SameCandidates (r : Resolver) (a b : FetchRequest) : Prop where
  complete_left : none ∉ a.qualifiers
  complete_right : none ∉ b.qualifiers
  checksums : r.requestChecksums a = r.requestChecksums b
  places : webPlaces a = webPlaces b
  function : r.requestChecksums a ≠ [] ∨ a.digestFunction = b.digestFunction

variable {r : Resolver} {out : Surroundings π ν} {a b request : FetchRequest}

theorem parseChecksum_iff {value : String} {e : Expected} :
    (r.parseChecksum value).toOption = some e ↔
      ∃ algorithm, Sri.parse value = .ok ⟨algorithm, e.hash⟩ ∧
        r.registry.getByName algorithm = .ok e.hasher ∧ e.hasher.validate e.hash = .ok () := by
  unfold parseChecksum
  constructor
  · intro h
    split at h
    · exact nomatch h
    next sri hparse =>
      split at h
      · exact nomatch h
      next hasher hname =>
        split at h
        · exact nomatch h
        next hvalidate =>
          obtain rfl := Option.some.inj h
          exact ⟨sri.algorithm, hparse, hname, hvalidate⟩
  · rintro ⟨algorithm, hparse, hname, hvalidate⟩
    simp only [hparse, hname, hvalidate]
    rfl

/-- A qualifier is a checksum only under the one name, and if it is well formed, of a registered
algorithm, and a digest of that. -/
theorem readQualifier_iff {q : Qualifier} {e : Expected} :
    r.readQualifier (some q) = some e ↔
      q.name = Qualifier.checksumName ∧ ∃ algorithm, Sri.parse q.value = .ok ⟨algorithm, e.hash⟩ ∧
        r.registry.getByName algorithm = .ok e.hasher ∧ e.hasher.validate e.hash = .ok () := by
  unfold readQualifier
  rw [Option.bind_some]
  by_cases hname : q.name = Qualifier.checksumName
  · rw [if_pos hname, parseChecksum_iff]
    exact (and_iff_right hname).symm
  · rw [if_neg hname]
    exact ⟨nofun, fun h => absurd h.1 hname⟩

theorem isWeb_iff {uri : String} :
    isWeb uri = true ↔ ∃ address, Url.parse uri = .ok (.web address) := by
  unfold isWeb
  split
  next address hparse => exact ⟨fun _ => ⟨address, hparse⟩, fun _ => rfl⟩
  next hnot => exact ⟨nofun, fun ⟨address, hparse⟩ => absurd hparse (hnot address)⟩

theorem requestChecksums_eq (request : FetchRequest) :
    r.requestChecksums request = request.qualifiers.filterMap r.readQualifier := by
  unfold requestChecksums checksums
  rw [List.filterMap_filterMap]
  rfl

theorem sameCandidates_usable (hnil : none ∉ request.qualifiers) :
    r.SameCandidates request (r.usable request) where
  complete_left := hnil
  complete_right h := hnil (List.mem_filter.1 h).1
  checksums := by
    rw [requestChecksums_eq, requestChecksums_eq]
    show _ = (request.qualifiers.filter fun q => (r.readQualifier q).isSome).filterMap _
    rw [List.filterMap_filter]
    refine congrArg (List.filterMap · request.qualifiers) (funext fun q => ?_)
    cases r.readQualifier q with
    | none => rfl
    | some e => rfl
  places := by
    show _ = (request.uris.filter isWeb).filter isWeb
    rw [List.filter_filter]
    simp [webPlaces]
  function := .inr rfl

/-! ## What comes of it -/

theorem retrieve_of_not_web {target : Option (Hasher × Option String)} {uri : String}
    (h : isWeb uri = false) (w : World π ν) : r.retrieve out target uri w = (none, w) := by
  unfold retrieve
  split
  next address hparse => exact nomatch h.symm.trans (isWeb_iff.2 ⟨address, hparse⟩)
  next => rfl

theorem requestTarget_congr (h : r.SameCandidates a b) : r.requestTarget a = r.requestTarget b := by
  unfold requestTarget
  rw [← h.checksums]
  rcases h.function with hchecksums | hfunction
  · rw [List.getLast?_eq_some_getLast hchecksums]
    rfl
  · rw [hfunction]

theorem specified_congr (h : r.SameCandidates a b) (w : World π ν) :
    r.specified out (some a) w = r.specified out (some b) w := by
  have hplaces (request : FetchRequest) (w : World π ν) :
      firstSuccess (r.retrieve out (r.requestTarget request)) request.uris w =
        firstSuccess (r.retrieve out (r.requestTarget request)) (webPlaces request) w :=
    (firstSuccess_filter (fun _ _ hweb => retrieve_of_not_web hweb) w).symm
  unfold specified
  dsimp only
  rw [if_neg h.complete_left, if_neg h.complete_right, h.checksums]
  obtain ⟨_ | hit, w'⟩ := firstSuccess (knownSize out) (r.requestChecksums b) w
  · dsimp only
    rw [hplaces a, hplaces b, requestTarget_congr h, h.places]
  · rfl

theorem silent_of_noted {w w' : World π ν} {told told' : List Notice}
    {asked asked' : List Url.WebAddress}
    (h : (w.noted told asked).silent = (w'.noted told' asked').silent) :
    w.silent = w'.silent ∧ told = told' ∧ asked = asked' := by
  obtain ⟨store, proxy, network, log⟩ := w
  obtain ⟨store', proxy', network', log'⟩ := w'
  obtain ⟨rfl, hproxy, hnetwork, -⟩ := World.mk.inj h
  obtain ⟨rfl, rfl⟩ := Prod.mk.inj hproxy
  obtain ⟨rfl, rfl⟩ := Prod.mk.inj hnetwork
  exact ⟨rfl, rfl, rfl⟩

/-- Two requests are resolved alike in a world: they are answered alike, and lead to the same store
with the same counts, and to the same states of the proxy and the network; the proxy is told and
the network asked the same, in the same order. -/
structure ResolvedAlike (r : Resolver) (out : Surroundings π ν) (a b : FetchRequest)
    (w : World π ν) : Prop where
  answer : ((r.fetchBlobOperation (some a)).run out w).1 =
    ((r.fetchBlobOperation (some b)).run out w).1
  world : ((r.fetchBlobOperation (some a)).run out w).2.silent =
    ((r.fetchBlobOperation (some b)).run out w).2.silent
  told : notices ((r.fetchBlobOperation (some a)).history out w) =
    notices ((r.fetchBlobOperation (some b)).history out w)
  fetched : addresses ((r.fetchBlobOperation (some a)).history out w) =
    addresses ((r.fetchBlobOperation (some b)).history out w)

/-- Requests with the same candidates are resolved alike, in whatever state the store, the proxy and
the network are: what else they name, and a hint that is not needed, makes no difference. -/
theorem resolved_by_candidates (h : r.SameCandidates a b) (out : Surroundings π ν)
    (w : World π ν) : r.ResolvedAlike out a b w := by
  have hspecified : r.specified ⟨out.proxy.noting, out.network.noting⟩ (some a)
      (w.noted [] []).silent = _ := specified_congr h _
  rw [specified_noted, specified_noted] at hspecified
  obtain ⟨hanswer, hnoted⟩ := Prod.mk.inj hspecified
  obtain ⟨hworld, htold, hfetched⟩ := silent_of_noted hnoted
  exact ⟨hanswer, hworld, htold, hfetched⟩

/-- A request for a blob that is found at the third of its places, and one that names nothing but
its checksum and that place. -/
theorem resolved_by_candidates_of_hello :
    let uri := "http://[::1]/"
    let out : Surroundings Proxy.Recording Unit :=
      ⟨.recording false, ⟨fun _ s => (.ok ⟨200, some 5, .ofBytes (Utf8.ofString "hello")⟩, s)⟩⟩
    let w : World Proxy.Recording Unit := ⟨.empty, .empty, (), []⟩
    let r : Resolver := ⟨.standard, {}⟩
    let sri := "sha256-LPJNul+wow4m6DsqxbninhsWHlwfp0JecwQzYpOLmCQ="
    let a : FetchRequest :=
      { digestFunction := .md5
        qualifiers := [some ⟨"vcs.commit", sri⟩, some (.checksum "sha256"), some (.checksum sri),
          some (.checksum "sha3-AAAA"), some (.checksum "sha256-AAAA")]
        uris := ["//", "ftp://[::1]/", uri] }
    let b : FetchRequest := { qualifiers := [some (.checksum sri)], uris := [uri] }
    r.SameCandidates a b ∧
      (∃ digest, ((r.fetchBlobOperation (some a)).run out w).1 =
        .ok (.found .sha256 digest (some uri))) ∧
      r.ResolvedAlike out a b w := by
  intro uri out w r sri a b
  have hsame : r.SameCandidates a b :=
    ⟨by decide, by decide, by decide +kernel, by decide +kernel, .inl (by decide +kernel)⟩
  exact ⟨hsame, ⟨.ofSize "2cf24dba5fb0a30e26e83b2ac5b9e29e1b161e5c1fa7425e73043362938b9824" 5,
    by decide +kernel⟩, resolved_by_candidates hsame out w⟩

end Resolver

end AssetCache
