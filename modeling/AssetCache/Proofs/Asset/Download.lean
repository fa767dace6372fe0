import AssetCache.Proofs.Asset.BufferCap
import AssetCache.Proofs.Asset.Steps
import AssetCache.Proofs.Service.Interleaving
import AssetCache.Proofs.Store.Verification

/-!
# Downloads that are reported

A download is verified on one of two ways: it is read into memory and hashed, or, where its length
is declared and its digest is known, it is left to the store, which verifies what it stores.  On the
second way the store may find that it need not store the body, because there is an entry already or
someone else is writing it.  Then nobody reads the body, and the request is answered with the digest
that was expected and the length that was declared.

Results:
1. `download_cases`: the two ways.
2. `download_truthful_unless_refused`: among any number of other tasks, a download that is reported
   was read and has the reported digest, but for the case above; and in that case any other body
   leads to the same response.
-/

namespace AssetCache

namespace Resolver

open Resolution (Does)

variable {r : Resolver} {hasher : Hasher} {expectedHash : Option String} {fetched : FetchedBody}
  {hash : String} {size : Nat} {body : Reader} {blob : Bytes}

/-! ## The two ways of a download -/

/-- What of a download is put into the store. -/
inductive Handed (r : Resolver) (hasher : Hasher) (expectedHash : Option String)
    (fetched : FetchedBody) : String → Nat → Reader → Prop
  /-- Its body as it is, under what was expected and declared. -/
  | streamed (hash : String) (size : Nat) (hexpected : expectedHash = some hash)
    (hdeclared : fetched.contentLength = some size) :
    Handed r hasher expectedHash fetched hash size fetched.body
  /-- What was read of it, under its own digest. -/
  | buffered (blob : Bytes) (hunknown : expectedHash = none ∨ fetched.contentLength = none)
    (hexpected : ∀ x, expectedHash = some x → x = hasher.hash blob)
    (hread : bufferBody r.config.maxBufferedBytes fetched.contentLength fetched.body = .ok blob) :
    Handed r hasher expectedHash fetched (hasher.hash blob) blob.length (.ofBytes blob)

theorem of_bufferVerified
    (h : r.bufferVerified hasher expectedHash fetched = .ok (hash, size, body)) :
    ∃ blob, bufferBody r.config.maxBufferedBytes fetched.contentLength fetched.body = .ok blob ∧
      (∀ x, expectedHash = some x → x = hasher.hash blob) ∧
      hash = hasher.hash blob ∧ size = blob.length ∧ body = .ofBytes blob := by
  unfold bufferVerified at h
  split at h
  next => exact nomatch h
  next blob hread =>
    dsimp only at h
    split at h
    next => exact nomatch h
    next hfilter =>
      have hresult := Except.ok.inj h
      simp only [Prod.mk.injEq] at hresult
      obtain ⟨rfl, rfl, rfl⟩ := hresult
      refine ⟨blob, hread, fun x hx => ?_, rfl, rfl, rfl⟩
      simpa [hx] using hfilter

theorem none_or_none {α β : Type} {a : Option α} {b : Option β}
    (h : ∀ x y, a = some x → b = some y → False) : a = none ∨ b = none := by
  cases a with
  | none => exact .inl rfl
  | some x =>
    cases b with
    | none => exact .inr rfl
    | some y => exact (h x y rfl rfl).elim

theorem download_cases (h : r.download hasher expectedHash fetched = .ok (hash, size, body)) :
    r.Handed hasher expectedHash fetched hash size body := by
  unfold download at h
  split at h
  next x n hdeclared =>
    simp only [Except.ok.injEq, Prod.mk.injEq] at h
    obtain ⟨rfl, rfl, rfl⟩ := h
    exact .streamed x n rfl hdeclared
  next hunknown =>
    obtain ⟨blob, hread, hexpected, rfl, rfl, rfl⟩ := of_bufferVerified h
    exact .buffered blob (none_or_none hunknown) hexpected hread

theorem requestTarget_cases {request : FetchRequest}
    (h : r.requestTarget request = some (hasher, expectedHash)) :
    (∃ e, (r.requestChecksums request).getLast? = some e ∧ hasher = e.hasher ∧
        expectedHash = some e.hash) ∨
      (r.requestChecksums request = [] ∧ r.registry.get request.digestFunction = .ok hasher ∧
        expectedHash = none) := by
  unfold requestTarget at h
  cases hlast : (r.requestChecksums request).getLast? with
  | some e =>
    rw [hlast] at h
    obtain ⟨rfl, rfl⟩ := Prod.mk.inj (Option.some.inj h)
    exact .inl ⟨e, rfl, rfl, rfl⟩
  | none =>
    rw [hlast] at h
    cases hget : r.registry.get request.digestFunction with
    | error cause => rw [hget] at h; exact nomatch h
    | ok g =>
      rw [hget] at h
      obtain ⟨rfl, rfl⟩ := Prod.mk.inj (Option.some.inj h)
      exact .inr ⟨List.getLast?_eq_none_iff.1 hlast, rfl, rfl⟩

theorem mem_of_requestTarget {request : FetchRequest}
    (h : r.requestTarget request = some (hasher, expectedHash)) : hasher ∈ r.registry.hashers := by
  rcases requestTarget_cases h with ⟨e, hlast, rfl, -⟩ | ⟨-, hget, -⟩
  · exact (of_mem_checksums (List.mem_of_getLast? hlast)).1
  · exact Registry.mem_of_get hget

/-! ## What is reported of a download -/

/-- A body, read to its end, has the digest that is reported of it. -/
def Truthful (hasher : Hasher) (body : Reader) (digest : BlobDigest) : Prop :=
  ∃ blob, body.readAll = .ok blob ∧ digest = .ofSize (hasher.hash blob) blob.length

/-- Whether a download is left to the store to verify: there is a digest to match, and the length
is declared. -/
def Streams (r : Resolver) (request : FetchRequest) (fetched : FetchedBody) : Prop :=
  r.requestChecksums request ≠ [] ∧ fetched.contentLength.isSome

/-- The way of a download of a request: by what hasher, under what digest and size, and with what
body it is put into the store. -/
inductive Way (r : Resolver) (request : FetchRequest) (fetched : FetchedBody) :
    Hasher → String → Nat → Reader → Prop
  /-- As it was fetched, under the last checksum. -/
  | streamed (e : Expected) (size : Nat) (hlast : (r.requestChecksums request).getLast? = some e)
    (hdeclared : fetched.contentLength = some size) :
    Way r request fetched e.hasher e.hash size fetched.body
  /-- As it was read, under its own digest. -/
  | buffered (hasher : Hasher) (blob : Bytes) (hnot : ¬ r.Streams request fetched)
    (hread : bufferBody r.config.maxBufferedBytes fetched.contentLength fetched.body = .ok blob) :
    Way r request fetched hasher (hasher.hash blob) blob.length (.ofBytes blob)

theorem way_of_download {request : FetchRequest}
    (htarget : r.requestTarget request = some (hasher, expectedHash))
    (h : r.download hasher expectedHash fetched = .ok (hash, size, body)) :
    r.Way request fetched hasher hash size body := by
  cases download_cases h with
  | streamed _ _ hexpected hdeclared =>
    rcases requestTarget_cases htarget with ⟨e, hlast, rfl, hhash⟩ | ⟨-, -, hnone⟩
    · obtain rfl : hash = e.hash := Option.some.inj (hexpected.symm.trans hhash)
      exact .streamed e size hlast hdeclared
    · exact nomatch hexpected.symm.trans hnone
  | buffered blob hunknown _ hread =>
    refine .buffered hasher blob ?_ hread
    rintro ⟨hchecksums, hlength⟩
    rcases hunknown with hnone | hnone
    · rcases requestTarget_cases htarget with ⟨e, -, -, hhash⟩ | ⟨hnil, -, -⟩
      · exact nomatch hhash.symm.trans hnone
      · exact hchecksums hnil
    · simp [hnone] at hlength

/-- The store did not admit a write. -/
def Refused (t : List Action.interface.Exchange) : Prop :=
  ∃ path admission, admission ≠ .begun ∧ ⟨.begin path true, admission⟩ ∈ t

/-- A write was refused, and then the body does not matter; or the body was verified. -/
theorem refused_or_verified {t : List Action.interface.Exchange}
    (h : Kept hasher hash size body t) :
    (Refused t ∧ ∀ body', Kept hasher hash size body' t) ∨
      (¬ Refused t ∧
        (hasher.isEmptyHash hash = true ∨
          ∃ blob, Cache.verify .cas hasher hash (some size) body = .ok blob)) := by
  cases h with
  | empty hvalidate hempty =>
    refine .inr ⟨?_, .inl hempty⟩
    rintro ⟨path, admission, -, hmem⟩
    exact absurd hmem List.not_mem_nil
  | present hvalidate hempty =>
    exact .inl ⟨⟨_, .present, nofun, List.mem_cons_self⟩, fun _ => .present hvalidate hempty⟩
  | busy hvalidate hempty =>
    exact .inl ⟨⟨_, .busy, nofun, List.mem_cons_self⟩, fun _ => .busy hvalidate hempty⟩
  | stored blob hvalidate hempty hverify =>
    refine .inr ⟨?_, .inr ⟨blob, hverify⟩⟩
    rintro ⟨path, admission, hne, hmem⟩
    rcases List.mem_cons.1 hmem with heq | hmem
    · cases heq
      exact hne rfl
    · exact nomatch List.mem_singleton.1 hmem

theorem not_fetch_of_kept {t : List Action.interface.Exchange} (h : Kept hasher hash size body t) :
    ∀ x ∈ t, ∀ address, x.1 ≠ .fetch address := by
  intro x hmem address
  cases h with
  | empty => exact absurd hmem List.not_mem_nil
  | present => exact List.mem_singleton.1 hmem ▸ nofun
  | busy =>
    rcases List.mem_cons.1 hmem with rfl | hmem
    · exact nofun
    · exact List.mem_singleton.1 hmem ▸ nofun
  | stored =>
    rcases List.mem_cons.1 hmem with rfl | hmem
    · exact nofun
    · exact List.mem_singleton.1 hmem ▸ nofun

/-- A download that is reported, seen from the end of a request's history: the last fetch in it is
that of the reported place. -/
structure Reported (r : Resolver) (request : FetchRequest)
    (history : List Action.interface.Exchange) (response : FetchBlobResponse) (uri : String)
    (hasher : Hasher) (digest : BlobDigest) (address : Url.WebAddress) (fetched : FetchedBody)
    (before after : List Action.interface.Exchange) : Prop where
  place : uri ∈ request.uris
  function : r.registry.get response.digestFunction = .ok hasher
  digest : response.blobDigest = some digest
  parsed : webAddress uri = .ok address
  history : history = before ++
    ⟨.fetch address, .ok fetched⟩ :: ⟨.log (.fetched uri fetched.status), ()⟩ :: after
  last : ∀ x ∈ after, ∀ address, x.1 ≠ .fetch address

theorem reported_of_retrieved {request : FetchRequest}
    {t before this rest : List Action.interface.Exchange} {response : FetchBlobResponse}
    {uri : String} {d : DigestFunction × BlobDigest} {address : Url.WebAddress}
    (hret : r.Retrieved request t response uri hasher expectedHash d before this)
    (hdown : r.Downloaded hasher expectedHash uri this d address fetched hash size body rest) :
    r.Reported request t response uri hasher (.ofSize hash size) address fetched before rest := by
  have hresponse : response = .found hasher.function (.ofSize hash size) (some uri) := by
    rw [hret.answered, hdown.digest]
  refine ⟨hret.place, ?_, ?_, hdown.parsed, ?_, not_fetch_of_kept hdown.kept⟩
  · rw [hresponse]
    exact Registry.get_function (mem_of_requestTarget hret.targeted)
  · rw [hresponse]
    rfl
  · rw [hret.history, hdown.history]

/-- The history with another body in the place of the one that was fetched. -/
def withBody (address : Url.WebAddress) (fetched : FetchedBody) (uri : String)
    (before after : List Action.interface.Exchange) (body : Reader) :
    List Action.interface.Exchange :=
  before ++ ⟨.fetch address, .ok { fetched with body := body }⟩ ::
    ⟨.log (.fetched uri fetched.status), ()⟩ :: after

theorem truthful_of_way {request : FetchRequest} {before rest : List Action.interface.Exchange}
    (hmissed : ∀ e ∈ r.requestChecksums request, Missed e before)
    (hway : r.Way request fetched hasher hash size body) (hkept : Kept hasher hash size body rest)
    (hadmitted : ¬ (r.Streams request fetched ∧ Refused rest)) (hshort : fetched.body.Short) :
    Truthful hasher fetched.body (.ofSize hash size) := by
  cases hway with
  | buffered _ blob _ hread => exact ⟨blob, readAll_of_bufferBody hshort hread, rfl⟩
  | streamed e _ hlast hdeclared =>
    have he : e ∈ r.requestChecksums request := List.mem_of_getLast? hlast
    have hstreams : r.Streams request fetched := ⟨List.ne_nil_of_mem he, by simp [hdeclared]⟩
    rcases refused_or_verified hkept with ⟨hrefused, -⟩ | ⟨-, hempty | ⟨blob, hverify⟩⟩
    · exact absurd ⟨hstreams, hrefused⟩ hadmitted
    · -- The digest of the empty blob would have been found before anything was fetched.
      exact nomatch (hmissed e he).nonempty.symm.trans hempty
    · obtain ⟨hlength, hread⟩ := Cache.of_verify_sized hshort hverify
      exact ⟨blob, hread, by rw [Cache.hash_eq_of_verify hverify, hlength]⟩

theorem expected_of_streams {request : FetchRequest}
    (hway : r.Way request fetched hasher hash size body) (hstreams : r.Streams request fetched) :
    ∃ e n, (r.requestChecksums request).getLast? = some e ∧ fetched.contentLength = some n ∧
      BlobDigest.ofSize hash size = .ofSize e.hash n := by
  cases hway with
  | buffered _ _ hnot _ => exact absurd hstreams hnot
  | streamed e _ hlast hdeclared => exact ⟨e, size, hlast, hdeclared, rfl⟩

/-- A download that was refused is reported in the same way with any other body. -/
theorem leads_of_refused {request : FetchRequest}
    {t before this rest : List Action.interface.Exchange} {response : FetchBlobResponse}
    {uri : String} {d : DigestFunction × BlobDigest} {address : Url.WebAddress}
    (hret : r.Retrieved request t response uri hasher expectedHash d before this)
    (hdown : r.Downloaded hasher expectedHash uri this d address fetched hash size body rest)
    (hway : r.Way request fetched hasher hash size body) (hstreams : r.Streams request fetched)
    (hrefused : Refused rest) (body' : Reader) :
    (r.fetchBlobOperation (some request)).Leads
      (withBody address fetched uri before rest body') (.ok response) := by
  cases hway with
  | buffered _ _ hnot _ => exact absurd hstreams hnot
  | streamed e _ hlast hdeclared =>
    have htarget := hret.targeted
    rw [requestTarget, hlast] at htarget
    obtain rfl : some e.hash = expectedHash := (Prod.mk.inj (Option.some.inj htarget)).2
    have hdownload : r.download e.hasher (some e.hash) { fetched with body := body' } =
        .ok (e.hash, size, body') := by
      simp only [download, hdeclared]
    -- What was refused is refused with the other body too, and the rest goes on as before.
    rcases refused_or_verified hdown.kept with ⟨-, hany⟩ | ⟨hnot, -⟩
    · exact hret.again _ (fetchUri_does.2 ⟨address, { fetched with body := body' }, e.hash, size,
        body', rest, hdown.parsed, hdown.success, hdownload, hany body', rfl, hdown.digest⟩)
    · exact absurd hrefused hnot

/-- The body of a download that is reported was read to its end and is as it is reported, unless it
was left to the store and the store did not admit it.  Then it was never read: the digest is the
expected one with the declared length, and any other body leads to the same response. -/
def TruthfulUnlessRefused (r : Resolver) (request? : Option FetchRequest)
    (history : List Action.interface.Exchange) (response : FetchBlobResponse) (uri : String) :
    Prop :=
  ∃ request hasher digest address fetched before after,
    request? = some request ∧
    r.Reported request history response uri hasher digest address fetched before after ∧
    (¬ (r.Streams request fetched ∧ Refused after) → fetched.body.Short →
      Truthful hasher fetched.body digest) ∧
    (r.Streams request fetched ∧ Refused after →
      (∃ e size, (r.requestChecksums request).getLast? = some e ∧
        fetched.contentLength = some size ∧ digest = .ofSize e.hash size) ∧
      ∀ body, (r.fetchBlobOperation (some request)).Leads
        (withBody address fetched uri before after body) (.ok response))

/-- In any run of any number of tasks, whatever has become of the store between their steps, a
download that is reported is truthful unless it was refused. -/
theorem download_truthful_unless_refused {π ν : Type} (out : Surroundings π ν) (w : World π ν)
    (moves : List Move) {request? : Option FetchRequest}
    {history : List Action.interface.Exchange} {response : FetchBlobResponse} {uri : String}
    (hdone : .finished (.fetchBlob r request?) history (.ok response) ∈
      ((Service.idle w).run out moves).tasks)
    (hok : response.status = .ok) (huri : response.uri = some uri) :
    r.TruthfulUnlessRefused request? history response uri := by
  have hdoes : Does (r.fetchBlob request?) history (.ok response) := Service.run_leads hdone
  obtain ⟨request, rfl, hasher, expectedHash, d, before, this, hret⟩ :=
    retrieved_of_does hok huri hdoes
  obtain ⟨address, fetched, hash, size, body, rest, hdown⟩ := fetchUri_does.1 hret.does
  have hway := way_of_download hret.targeted hdown.download
  refine ⟨request, hasher, .ofSize hash size, address, fetched, before, rest, rfl,
    reported_of_retrieved hret hdown, ?_, ?_⟩
  · exact fun hadmitted hshort => truthful_of_way hret.missed hway hdown.kept hadmitted hshort
  · rintro ⟨hstreams, hrefused⟩
    exact ⟨expected_of_streams hway hstreams, leads_of_refused hret hdown hway hstreams hrefused⟩

/-- While a blob is being written, a download that has to match it is answered with its digest,
whatever was served. -/
theorem download_unread_while_written :
    let hasher : Hasher := .ofAlgorithm .sha256 .sha256
    let hash := "2cf24dba5fb0a30e26e83b2ac5b9e29e1b161e5c1fa7425e73043362938b9824"
    let uri := "http://[::1]/"
    let body := Reader.ofBytes (Utf8.ofString "evilbytes")
    let out : Surroundings Unit Unit := ⟨.absent, ⟨fun _ s => (.ok ⟨200, some 9, body⟩, s)⟩⟩
    let w : World Unit Unit := ⟨.empty, (), (), []⟩
    let r : Resolver := ⟨.standard, {}⟩
    let request : FetchRequest :=
      { qualifiers := [some (.checksum "sha256-LPJNul+wow4m6DsqxbninhsWHlwfp0JecwQzYpOLmCQ=")]
        uris := [uri] }
    let moves : List Move :=
      [.start (.put .cas hasher hash 5 (.ofBytes (Utf8.ofString "hello"))), .advance 0,
        .start (.fetchBlob r (some request)), .advance 1, .advance 1, .advance 1, .advance 1,
        .advance 1, .advance 1]
    let response : FetchBlobResponse := .found .sha256 (.ofSize hash 9) (some uri)
    ¬ Truthful hasher body (.ofSize hash 9) ∧
      ∃ history,
        (.finished (.fetchBlob r (some request)) history (.ok response) ∈
            ((Service.idle w).run out moves).tasks ∧
          response.status = .ok ∧ response.uri = some uri) ∧
        r.TruthfulUnlessRefused (some request) history response uri := by
  intro hasher hash uri body out w r request moves response
  have hresponse : ((Service.idle w).run out moves).tasks[1]?.bind Task.response? =
      some (.ok response) := by decide +kernel
  obtain ⟨history, hdone⟩ := Service.finished_of_response rfl hresponse
  refine ⟨?_, history, ⟨hdone, rfl, rfl⟩,
    download_truthful_unless_refused out w moves hdone rfl rfl⟩
  rintro ⟨blob, hread, hdigest⟩
  obtain rfl : Utf8.ofString "evilbytes" = blob :=
    Except.ok.inj ((Reader.readAll_ofBytes _).symm.trans hread)
  exact absurd hdigest (by decide +kernel)

end Resolver

end AssetCache
