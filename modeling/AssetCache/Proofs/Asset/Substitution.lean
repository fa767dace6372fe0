import AssetCache.Proofs.Asset.Report
import AssetCache.Proofs.Asset.Streaming

/-!
# Substituted downloads

A place may serve another body than the one whose checksum is expected.  That is no failure like
others: what is told of it is an error, that the download was rejected, and not only a warning, that
the place was passed over.  It is found out in memory where no length is declared, and by the store
where one is; and of an empty body with its length declared the store does not look at the octets,
but refuses a size that the digest cannot have.  So that one is passed over with a warning.

A request is taken apart into its visits, one for each place that is tried: `visits` runs through
the places as the resolver does, and `history_tryUris` says that this is all it does there.

Results:
1. `history_fetchBlob`: what a request does, visit by visit.
2. `of_substituted`: what becomes of a substituted download at one place, and what is told.
3. `substitution_told`: an error is told of each substituted download of a request, but for those of
   empty bodies with their lengths declared.
-/

namespace AssetCache

variable {π ν α β : Type} {out : Surroundings π ν} {w : World π ν}
  {t : List Action.interface.Exchange}

/-! ## Histories of resolutions -/

/-- A resolution carried out on the cache. -/
def Resolution.operation (p : Resolution α) : Operation α :=
  Program.expand (I := Request.Call.interface) (J := Action.interface) Request.implement p

theorem Resolution.history_bind (p : Resolution α) (f : α → Resolution β) (w : World π ν) :
    Operation.history out (Resolution.operation (p >>= f)) w =
      Operation.history out (Resolution.operation p) w ++
        Operation.history out (Resolution.operation (f ((Resolution.operation p).run out w).1))
          ((Resolution.operation p).run out w).2 := by
  have hexpand := Program.expand_bind (I := Request.Call.interface) (J := Action.interface)
    Request.implement p f
  exact (congrArg (Operation.history out · w) hexpand).trans (Program.trace_bind ..)

/-- The event that an exchange tells of. -/
def eventOf : Action.interface.Exchange → Option Event
  | ⟨.log event, _⟩ => some event
  | _ => none

/-- What is told in a history, in order. -/
def events (t : List Action.interface.Exchange) : List Event := t.filterMap eventOf

namespace Resolver

open Resolution (Does)

variable {r : Resolver} {e : Expected} {expected : Option Expected} {requested : Option Hasher}
  {uri : String} {uris : List String} {fetched : FetchedBody} {hasher : Hasher} {hash : String}
  {size : Nat} {body : Reader}

/-! ## Visits -/

/-- A place that was tried, what was done there, and what came of it. -/
structure Visit where
  uri : String
  history : List Action.interface.Exchange
  result : Attempt (DigestFunction × BlobDigest)

/-- What was done at a place, and what was told of it if it was to no avail. -/
def Visit.exchanges (v : Visit) : List Action.interface.Exchange :=
  match v.result with
  | .ok _ => v.history
  | .error reason => v.history ++ [⟨.log (uriEvent v.uri reason), ()⟩]

/-- The visit of one place. -/
def visit (r : Resolver) (out : Surroundings π ν) (expected : Option Expected)
    (requested : Option Hasher) (uri : String) (w : World π ν) : Visit :=
  let attempt := Resolution.operation (r.attemptUri expected requested uri)
  ⟨uri, attempt.history out w, (attempt.run out w).1⟩

/-- The visits of places, up to the first that resolves the request. -/
def visits (r : Resolver) (out : Surroundings π ν) (expected : Option Expected)
    (requested : Option Hasher) : List String → World π ν → List Visit
  | [], _ => []
  | uri :: rest, w =>
    let v := r.visit out expected requested uri w
    v :: match v.result with
      | .ok _ => []
      | .error _ => visits r out expected requested rest (w.after out v.exchanges)

/-- What is done at places is what is done in their visits. -/
theorem history_tryUris (uris : List String) (w : World π ν) :
    Operation.history out (Resolution.operation (r.tryUris expected requested uris)) w =
      (r.visits out expected requested uris w).flatMap Visit.exchanges := by
  induction uris generalizing w with
  | nil => rfl
  | cons uri rest ih =>
    unfold tryUris visits
    dsimp only
    rw [Resolution.history_bind, List.flatMap_cons, Visit.exchanges, ← Operation.after_history]
    cases hresult : (r.visit out expected requested uri w).result with
    | ok d =>
      have hrun : ((Resolution.operation (r.attemptUri expected requested uri)).run out w).1 =
        .ok d := hresult
      rw [hrun]
      rfl
    | error reason =>
      have hrun : ((Resolution.operation (r.attemptUri expected requested uri)).run out w).1 =
        .error reason := hresult
      rw [hrun, World.after_append, ← ih, List.append_assoc]
      rfl

/-- The visits of a request: none, if it is refused or a checksum resolves it. -/
def requestVisits (r : Resolver) (out : Surroundings π ν) (request : FetchRequest)
    (w : World π ν) : List Visit :=
  if request.qualifiers.any Option.isNone then []
  else
    let asked := (Resolution.operation (r.requestHasher request.digestFunction)).run out w
    let found := (Resolution.operation
      (r.tryQualifiers none (request.qualifiers.filterMap id))).run out asked.2
    match found.1 with
    | .inl _ => []
    | .inr expected => r.visits out expected asked.1 request.uris found.2

/-- What a request does: nothing is fetched at first, and then come its visits. -/
theorem history_fetchBlob (request : FetchRequest) (w : World π ν) :
    ∃ before, Offline before ∧
      (r.fetchBlobOperation (some request)).history out w =
        before ++ (r.requestVisits out request w).flatMap Visit.exchanges := by
  have hop : r.fetchBlobOperation (some request) =
    Resolution.operation (r.fetchBlob (some request)) := rfl
  rw [hop]
  unfold fetchBlob requestVisits
  dsimp only
  split
  next => exact ⟨[], offline_nil, rfl⟩
  next =>
    have hasked := Operation.leads_history out
      (Resolution.operation (r.requestHasher request.digestFunction)) w
    rw [Resolution.history_bind]
    generalize (Resolution.operation (r.requestHasher request.digestFunction)).run out w = asked
      at hasked ⊢
    have hfound := Operation.leads_history out
      (Resolution.operation (r.tryQualifiers none (request.qualifiers.filterMap id))) asked.2
    have hoffline := (offline_of_requestHasher hasked).append (offline_of_tryQualifiers hfound)
    rw [Resolution.history_bind, ← List.append_assoc]
    generalize (Resolution.operation
      (r.tryQualifiers none (request.qualifiers.filterMap id))).run out asked.2 = found
      at hfound ⊢
    refine ⟨_, hoffline, congrArg _ ?_⟩
    obtain ⟨response | expected, w'⟩ := found
    · rfl
    · dsimp only
      rw [Resolution.history_bind, history_tryUris]
      exact List.append_nil _

/-! ## The world at a visit -/

theorem visit_does (uri : String) (w : World π ν) :
    Does (r.attemptUri expected requested uri) (r.visit out expected requested uri w).history
      (r.visit out expected requested uri w).result :=
  Operation.leads_history ..

theorem visit_allows (uri : String) (w : World π ν) :
    w.Allows out (r.visit out expected requested uri w).history :=
  Operation.allows_history ..

theorem Wanted.after_quiet (hwanted : Wanted w.store hasher hash) (hallows : w.Allows out t)
    (hquiet : Quiet t) : Wanted (w.after out t).store hasher hash where
  nonempty := hwanted.nonempty
  absent := (hquiet out w hallows).1 ▸ hwanted.absent
  unmarked := (hquiet out w hallows).2 ▸ hwanted.unmarked

/-- A visit that is to no avail leaves a wanted blob wanted. -/
theorem wanted_after_visit {reason : SkipReason} (hwanted : Wanted w.store hasher hash)
    (hfailed : (r.visit out expected requested uri w).result = .error reason) :
    Wanted (w.after out (r.visit out expected requested uri w).exchanges).store hasher hash := by
  have hquiet := quiet_of_attemptUri_error (hfailed ▸ visit_does uri w)
  have hexchanges : (r.visit out expected requested uri w).exchanges =
      (r.visit out expected requested uri w).history ++ [⟨.log (uriEvent uri reason), ()⟩] := by
    unfold Visit.exchanges
    rw [hfailed]
    rfl
  rw [hexchanges]
  refine hwanted.after_quiet ?_ (hquiet.append (quiet_log _))
  exact (World.allows_append w).2 ⟨visit_allows uri w, rfl, trivial⟩

/-- Where a blob is wanted at first, it is so at each visit. -/
theorem exists_wanted_of_mem_visits {v : Visit} (hwanted : Wanted w.store hasher hash)
    (hv : v ∈ r.visits out expected requested uris w) :
    ∃ s : World π ν, Wanted s.store hasher hash ∧ v = r.visit out expected requested v.uri s := by
  induction uris generalizing w with
  | nil => exact nomatch hv
  | cons uri rest ih =>
    rcases List.mem_cons.1 hv with rfl | hrest
    · exact ⟨w, hwanted, rfl⟩
    · cases hresult : (r.visit out expected requested uri w).result with
      | ok d =>
        rw [hresult] at hrest
        exact nomatch hrest
      | error reason =>
        rw [hresult] at hrest
        exact ih (wanted_after_visit hwanted hresult) hrest

/-- The last checksum of a request is what its places have to match, and its blob is wanted when the
first of them is tried. -/
theorem exists_wanted_of_mem_requestVisits {request : FetchRequest} {v : Visit}
    (hidle : w.store.inFlight = []) (hlast : (r.requestChecksums request).getLast? = some e)
    (hv : v ∈ r.requestVisits out request w) :
    ∃ (requested : Option Hasher) (s : World π ν), Wanted s.store e.hasher e.hash ∧
      v = r.visit out (some e) requested v.uri s := by
  unfold requestVisits at hv
  split at hv
  next => exact nomatch hv
  next =>
    dsimp only at hv
    have hasked := requestHasher_does (Operation.leads_history out
      (Resolution.operation (r.requestHasher request.digestFunction)) w)
    have hmarks := (hasked.2 out w (Operation.allows_history ..)).2
    rw [Operation.after_history] at hmarks
    generalize (Resolution.operation (r.requestHasher request.digestFunction)).run out w = asked
      at hmarks hv
    let qualify := Resolution.operation (r.tryQualifiers none (request.qualifiers.filterMap id))
    have htried := tryQualifiers_does (Operation.leads_history out qualify asked.2)
    have hallows := Operation.allows_history out qualify asked.2
    have hafter := Operation.after_history out qualify asked.2
    generalize Operation.run out qualify asked.2 = found at htried hafter hv
    obtain ⟨response | expected, w'⟩ := found
    · exact nomatch hv
    · obtain ⟨hquiet, hexpected, hmissed⟩ := htried
      obtain rfl : expected = some e := by
        rw [hexpected, Option.or_none]
        exact hlast
      obtain rfl : _ = w' := hafter
      have hmiss := hmissed e (List.mem_of_getLast? hlast)
      have hwanted : Wanted asked.2.store e.hasher e.hash := by
        refine ⟨hmiss.nonempty, hmiss.absent out asked.2 hallows, ?_⟩
        rw [hmarks, hidle]
        exact List.not_mem_nil
      exact ⟨asked.1, exists_wanted_of_mem_visits (hwanted.after_quiet hallows hquiet) hv⟩

/-! ## Substituted bodies -/

/-- A place answers a fetch with success, and with another body than the expected one: it ends, is
as long as was declared, if a length was, and else no larger than the cap.  Lengths have 64 bits. -/
structure Substituted (r : Resolver) (e : Expected) (fetched : FetchedBody) : Prop where
  success : fetched.isSuccess = true
  ends : fetched.body.failure = none
  declared : ∀ n, fetched.contentLength = some n →
    n = fetched.body.bytes.length ∧ n ≤ Decimal.largest
  within : fetched.contentLength = none → ∀ limit, r.config.maxBufferedBytes = some limit →
    fetched.body.bytes.length ≤ limit
  differs : e.hasher.hash fetched.body.bytes ≠ e.hash

/-- Why a substituted body is not taken. -/
def verdict (e : Expected) (fetched : FetchedBody) : SkipReason :=
  match fetched.contentLength with
  | none => .hashMismatch e.hash (e.hasher.hash fetched.body.bytes)
  | some 0 => .put e.hash (.validation (.invalidEmptyDigest e.hasher.function))
  | some _ => .put e.hash (.hashMismatch e.hash (e.hasher.hash fetched.body.bytes))

theorem Substituted.readAll (h : r.Substituted e fetched) :
    fetched.body.readAll = .ok fetched.body.bytes := by
  unfold Reader.readAll
  rw [h.ends]

/-- In memory its digest is compared. -/
theorem Substituted.download_undeclared (h : r.Substituted e fetched)
    (hcap : ∀ limit, r.config.maxBufferedBytes = some limit → limit ≤ Decimal.largest)
    (hnone : fetched.contentLength = none) :
    r.download e.hasher (some e.hash) fetched =
      .error (.hashMismatch e.hash (e.hasher.hash fetched.body.bytes)) := by
  have hbuffered : Buffered r.config.maxBufferedBytes fetched.body fetched.body.bytes := by
    unfold Buffered
    split
    next => exact h.readAll
    next limit hlimit =>
      have hwithin := h.within hnone limit hlimit
      exact ⟨Reader.read_of_readAll h.readAll
        (Reader.le_oneMore hwithin (Nat.le_trans hwithin (hcap limit hlimit))), hwithin⟩
  have hread : bufferBody r.config.maxBufferedBytes none fetched.body =
      .ok fetched.body.bytes := bufferBody_iff.2 ⟨hbuffered, nofun⟩
  unfold download bufferVerified
  rw [hnone, hread]
  dsimp only
  rw [Option.filter_some_pos (by simpa using h.differs.symm)]

theorem download_declared {n : Nat} (hdeclared : fetched.contentLength = some n) :
    r.download e.hasher (some e.hash) fetched = .ok (e.hash, n, fetched.body) := by
  unfold download
  rw [hdeclared]

/-- A size of nothing is refused for a digest that is not that of nothing. -/
theorem validate_zero (hnonempty : hasher.isEmptyHash hash = false) :
    Cache.validate .cas hasher hash 0 =
      .error (.validation (.invalidEmptyDigest hasher.function)) := by
  simp [Cache.validate, Hasher.validateDigest, hnonempty]

theorem validate_of_ne_zero (hvalid : hasher.validate hash = .ok ()) (hsize : size ≠ 0) :
    Cache.validate .cas hasher hash size = .ok () := by
  simp [Cache.validate, Hasher.validateDigest, hvalid, hsize]

/-- In the store its digest is compared too. -/
theorem Substituted.verify_declared {n : Nat} (h : r.Substituted e fetched)
    (hdeclared : fetched.contentLength = some n) :
    Cache.verify .cas e.hasher e.hash (some n) fetched.body =
      .error (.hashMismatch e.hash (e.hasher.hash fetched.body.bytes)) := by
  obtain ⟨rfl, hlargest⟩ := h.declared n hdeclared
  rw [Cache.verify_cas_of_readAll h.readAll (fun n hn => (Option.some.inj hn).symm) hlargest]
  exact if_neg h.differs

/-! ## What becomes of them -/

theorem offline_of_store {result : Attempt (DigestFunction × BlobDigest)}
    (h : Does (store hasher hash size body) t result) : Offline t := by
  obtain ⟨t₁, t₂, answer, rfl, hput, hthen⟩ := (Resolution.does_bind _ _ _).1 h
  clear h
  refine (offline_of_stored (Cache.put_leads.1 ((Resolution.does_ask _ _).1 hput))).append ?_
  rcases answer with cause | done
  · dsimp only at hthen
    split at hthen
    next =>
      obtain ⟨_, rfl, rfl, -⟩ := (Resolution.does_log _ _ _).1 hthen
      exact offline_log _
    next => exact hthen.1 ▸ offline_nil
  · exact hthen.1 ▸ offline_nil

/-- After a fetch that is answered with success, its body is refused or put into the store. -/
theorem exists_of_mem_fetchUri {expectedHash : Option String} {address : Url.WebAddress}
    {result : Attempt (DigestFunction × BlobDigest)}
    (h : Does (r.fetchUri hasher expectedHash uri) t result)
    (hmem : ⟨.fetch address, .ok fetched⟩ ∈ t) (hsuccess : fetched.isSuccess = true) :
    ∃ rest, t = ⟨.fetch address, .ok fetched⟩ :: ⟨.log (.fetched uri fetched.status), ()⟩ :: rest ∧
      match r.download hasher expectedHash fetched with
      | .error reason => rest = [] ∧ result = .error reason
      | .ok (hash, size, body) => Does (store hasher hash size body) rest result := by
  unfold fetchUri at h
  split at h
  next =>
    obtain ⟨rfl, -⟩ := h
    exact nomatch hmem
  next address' _ =>
    obtain ⟨answer, rest, rfl, hthen⟩ := (Resolution.does_fetch _ _ _).1 h
    clear h
    cases answer with
    | error cause =>
      obtain ⟨rfl, -⟩ := hthen
      exact nomatch List.mem_singleton.1 hmem
    | ok answer =>
      obtain ⟨rest, rfl, hanswered⟩ := (Resolution.does_log _ _ _).1 hthen
      clear hthen
      have hoffline : Offline rest := by
        split at hanswered
        next => exact hanswered.1 ▸ offline_nil
        next =>
          split at hanswered
          next => exact hanswered.1 ▸ offline_nil
          next => exact offline_of_store hanswered
      rcases List.mem_cons.1 hmem with heq | hmem
      · cases heq
        refine ⟨rest, rfl, ?_⟩
        rw [if_neg (by simp [hsuccess])] at hanswered
        cases hdownload : r.download hasher expectedHash fetched with
        | error reason =>
          rw [hdownload] at hanswered
          exact ⟨hanswered.1, hanswered.2.symm⟩
        | ok handed =>
          rw [hdownload] at hanswered
          exact hanswered
      · rcases List.mem_cons.1 hmem with heq | hmem
        · exact nomatch heq
        · exact absurd trivial (hoffline _ hmem)

/-- A put of a wanted blob that is refused is told of by no event of its own. -/
theorem of_store_refused {cause : CacheError} {result : Attempt (DigestFunction × BlobDigest)}
    (hwanted : Wanted w.store hasher hash) (hallows : w.Allows out t)
    (hcause : Cache.validate .cas hasher hash size = .error cause ∨
      Cache.validate .cas hasher hash size = .ok () ∧
        Cache.verify .cas hasher hash (some size) body = .error cause)
    (h : Does (store hasher hash size body) t result) :
    events t = [] ∧ result = .error (.put hash cause) := by
  obtain ⟨t₁, t₂, answer, rfl, hput, hthen⟩ := (Resolution.does_bind _ _ _).1 h
  clear h
  have hallows := ((World.allows_append w).1 hallows).1
  have hstored := Cache.put_leads.1 ((Resolution.does_ask _ _).1 hput)
  cases putWanted_of_stored hwanted hallows hstored with
  | invalid e hvalidate =>
    obtain ⟨rfl, rfl⟩ := store_error (Cache.isBenign_of_validate hvalidate) hthen
    rcases hcause with hinvalid | ⟨hvalid, -⟩
    · obtain rfl := Except.error.inj (hvalidate.symm.trans hinvalid)
      exact ⟨rfl, rfl⟩
    · exact nomatch hvalidate.symm.trans hvalid
  | rejected e hvalidate hverify =>
    obtain ⟨rfl, rfl⟩ := store_error (Cache.isBenign_of_verify hverify) hthen
    rcases hcause with hinvalid | ⟨-, hrejected⟩
    · exact nomatch hvalidate.symm.trans hinvalid
    · obtain rfl := Except.error.inj (hverify.symm.trans hrejected)
      exact ⟨rfl, rfl⟩
  | stored blob hvalidate hverify =>
    rcases hcause with hinvalid | ⟨-, hrejected⟩
    · exact nomatch hvalidate.symm.trans hinvalid
    · exact nomatch hverify.symm.trans hrejected

/-- Where the expected blob is wanted, a substituted download is refused, and told of only by the
event of its fetch. -/
theorem of_substituted {address : Url.WebAddress} {result : Attempt (DigestFunction × BlobDigest)}
    (hwanted : Wanted w.store e.hasher e.hash) (hvalid : e.hasher.validate e.hash = .ok ())
    (hcap : ∀ limit, r.config.maxBufferedBytes = some limit → limit ≤ Decimal.largest)
    (hallows : w.Allows out t) (h : Does (r.fetchUri e.hasher (some e.hash) uri) t result)
    (hmem : ⟨.fetch address, .ok fetched⟩ ∈ t) (hsub : r.Substituted e fetched) :
    events t = [.fetched uri fetched.status] ∧ result = .error (verdict e fetched) := by
  obtain ⟨rest, rfl, hrest⟩ := exists_of_mem_fetchUri h hmem hsub.success
  clear h
  have hevents : events (⟨.fetch address, .ok fetched⟩ ::
      ⟨.log (.fetched uri fetched.status), ()⟩ :: rest) =
      .fetched uri fetched.status :: events rest := rfl
  rw [hevents]
  unfold verdict
  cases hcontent : fetched.contentLength with
  | none =>
    rw [hsub.download_undeclared hcap hcontent] at hrest
    obtain ⟨rfl, rfl⟩ := hrest
    exact ⟨rfl, rfl⟩
  | some n =>
    rw [download_declared hcontent] at hrest
    obtain ⟨w', hstore, hallows', -⟩ := allows_after_fetch hallows
    have hwanted' : Wanted w'.store e.hasher e.hash := hstore ▸ hwanted
    have hverify := hsub.verify_declared hcontent
    cases n with
    | zero =>
      obtain ⟨hquiet, rfl⟩ := of_store_refused hwanted' hallows'
        (.inl (validate_zero hwanted.nonempty)) hrest
      rw [hquiet]
      exact ⟨rfl, rfl⟩
    | succ n =>
      obtain ⟨hquiet, rfl⟩ := of_store_refused hwanted' hallows'
        (.inr ⟨validate_of_ne_zero hvalid (Nat.succ_ne_zero n), hverify⟩) hrest
      rw [hquiet]
      exact ⟨rfl, rfl⟩

theorem events_append (t t' : List Action.interface.Exchange) :
    events (t ++ t') = events t ++ events t' := List.filterMap_append ..

/-- What is told of a visit to a place that serves a substituted body. -/
theorem events_of_substituted {v : Visit} {address : Url.WebAddress}
    (hwanted : Wanted w.store e.hasher e.hash) (hvalid : e.hasher.validate e.hash = .ok ())
    (hcap : ∀ limit, r.config.maxBufferedBytes = some limit → limit ≤ Decimal.largest)
    (hv : v = r.visit out (some e) requested v.uri w)
    (hmem : ⟨.fetch address, .ok fetched⟩ ∈ v.history) (hsub : r.Substituted e fetched) :
    events v.exchanges = [.fetched v.uri fetched.status, uriEvent v.uri (verdict e fetched)] := by
  have hdoes : Does (r.attemptUri (some e) requested v.uri)
      (r.visit out (some e) requested v.uri w).history
      (r.visit out (some e) requested v.uri w).result := visit_does v.uri w
  have hallows : w.Allows out (r.visit out (some e) requested v.uri w).history :=
    visit_allows v.uri w
  rw [← hv] at hdoes hallows
  obtain ⟨htold, hresult⟩ := of_substituted hwanted hvalid hcap hallows hdoes hmem hsub
  unfold Visit.exchanges
  rw [hresult, events_append, htold]
  rfl

/-- It is logged as an error that the download of a place was rejected. -/
def logsRejection (uri : String) (event : Event) : Bool :=
  event.level = .error && event.message = "rejected download" &&
    event.fields.contains ("uri", .text uri)

/-- It is logged as a warning that a place was passed over. -/
def logsSkipping (uri : String) (event : Event) : Bool :=
  event.level = .warn && event.message = "skipping URI" &&
    event.fields.contains ("uri", .text uri)

/-- Of a place, it is logged once that its download was rejected, and not that it was passed
over. -/
def Alerted (uri : String) (told : List Event) : Prop :=
  told.countP (logsRejection uri) = 1 ∧ told.countP (logsSkipping uri) = 0

theorem logsRejection_uriEvent (uri : String) (reason : SkipReason) :
    logsRejection uri (uriEvent uri reason) = reason.isIntegrityFailure := by
  unfold uriEvent
  cases reason.isIntegrityFailure with
  | true => simp [logsRejection, Event.level, Event.message, Event.fields]
  | false => simp [logsRejection, Event.level]

theorem logsSkipping_uriEvent (uri : String) (reason : SkipReason) :
    logsSkipping uri (uriEvent uri reason) = !reason.isIntegrityFailure := by
  unfold uriEvent
  cases reason.isIntegrityFailure with
  | true => simp [logsSkipping, Event.level]
  | false => simp [logsSkipping, Event.level, Event.message, Event.fields]

/-- Of a place that was fetched from and did not resolve the request, its rejection is logged just
if the reason is a failure of integrity. -/
theorem alerted_iff {status : Nat} {reason : SkipReason} :
    Alerted uri [.fetched uri status, uriEvent uri reason] ↔ reason.isIntegrityFailure = true := by
  have hrejection : logsRejection uri (.fetched uri status) = false := rfl
  have hskipping : logsSkipping uri (.fetched uri status) = false := rfl
  unfold Alerted
  simp only [List.countP_cons, List.countP_nil, hrejection, hskipping, logsRejection_uriEvent,
    logsSkipping_uriEvent]
  cases reason.isIntegrityFailure with
  | true => simp
  | false => simp

theorem isIntegrityFailure_verdict :
    (verdict e fetched).isIntegrityFailure = true ↔ fetched.contentLength ≠ some 0 := by
  unfold verdict
  split
  next hnone => simp [SkipReason.isIntegrityFailure, hnone]
  next hzero => simp [SkipReason.isIntegrityFailure, hzero]
  next n hne hsome =>
    simp only [SkipReason.isIntegrityFailure, hsome, true_iff]
    exact fun heq => hne (Option.some.inj heq)

/-! ## Requests -/

/-- What is told of the substituted downloads of a request whose expected digest is `e`. -/
structure SubstitutionTold (r : Resolver) (out : Surroundings π ν) (request : FetchRequest)
    (e : Expected) (w : World π ν) : Prop where
  /-- The visits are all that the request does once it fetches. -/
  visited : ∃ before, Offline before ∧
    (r.fetchBlobOperation (some request)).history out w =
      before ++ (r.requestVisits out request w).flatMap Visit.exchanges
  /-- Of a visit that meets a substituted body, two events tell: the place answered, and the
  download came to nothing, for a reason that depends on the declared length. -/
  told : ∀ v ∈ r.requestVisits out request w, ∀ address fetched,
    ⟨.fetch address, .ok fetched⟩ ∈ v.history → r.Substituted e fetched →
      events v.exchanges = [.fetched v.uri fetched.status, uriEvent v.uri (verdict e fetched)]
  /-- Its rejection is logged, but for an empty body whose length was declared. -/
  alerted : ∀ v ∈ r.requestVisits out request w, ∀ address fetched,
    ⟨.fetch address, .ok fetched⟩ ∈ v.history → r.Substituted e fetched →
      (Alerted v.uri (events v.exchanges) ↔ fetched.contentLength ≠ some 0)

/-- Where nothing is being written and the last checksum of a request is `e`, whatever the registry,
the store, the proxy and the network are.  The cap, as all sizes, has 64 bits. -/
theorem substitution_told (r : Resolver) (out : Surroundings π ν) (request : FetchRequest)
    (e : Expected) (w : World π ν) (hidle : w.store.inFlight = [])
    (hcap : ∀ limit, r.config.maxBufferedBytes = some limit → limit ≤ Decimal.largest)
    (hlast : (r.requestChecksums request).getLast? = some e) :
    r.SubstitutionTold out request e w := by
  have hvalid := (of_mem_checksums (List.mem_of_getLast? hlast)).2
  have htold (v : Visit) (hv : v ∈ r.requestVisits out request w) (address : Url.WebAddress)
      (fetched : FetchedBody) (hmem : ⟨.fetch address, .ok fetched⟩ ∈ v.history)
      (hsub : r.Substituted e fetched) :
      events v.exchanges = [.fetched v.uri fetched.status, uriEvent v.uri (verdict e fetched)] := by
    obtain ⟨requested, s, hwanted, hvisit⟩ := exists_wanted_of_mem_requestVisits hidle hlast hv
    exact events_of_substituted hwanted hvalid hcap hvisit hmem hsub
  refine ⟨history_fetchBlob request w, htold, fun v hv address fetched hmem hsub => ?_⟩
  rw [htold v hv address fetched hmem hsub, alerted_iff, isIntegrityFailure_verdict]

/-- One place serves four bodies in turn, none of which is the expected one.  The last two are
empty, and of the last one it is declared. -/
theorem substitution_told_of_hello :
    let uri := "http://[::1]/"
    let jello := Reader.ofBytes (Utf8.ofString "jello")
    let answers : List FetchedBody :=
      [⟨200, some 5, jello⟩, ⟨200, none, jello⟩, ⟨200, none, .ofBytes []⟩,
        ⟨200, some 0, .ofBytes []⟩]
    let network : Network (List FetchedBody) := ⟨fun _ s =>
      match s with
      | [] => (.error (.transport uri "connection refused"), [])
      | fetched :: rest => (.ok fetched, rest)⟩
    let out : Surroundings Unit (List FetchedBody) := ⟨.absent, network⟩
    let w : World Unit (List FetchedBody) := ⟨.empty, (), answers, []⟩
    let r : Resolver := ⟨.standard, {}⟩
    let e : Expected := ⟨.ofAlgorithm .sha256 .sha256,
      "2cf24dba5fb0a30e26e83b2ac5b9e29e1b161e5c1fa7425e73043362938b9824"⟩
    let request : FetchRequest :=
      { qualifiers := [some (.checksum "sha256-LPJNul+wow4m6DsqxbninhsWHlwfp0JecwQzYpOLmCQ=")]
        uris := [uri, uri, uri, uri] }
    (w.store.inFlight = [] ∧
      (∀ limit, r.config.maxBufferedBytes = some limit → limit ≤ Decimal.largest) ∧
      (r.requestChecksums request).getLast? = some e) ∧
    (∀ fetched ∈ answers, r.Substituted e fetched) ∧
    (r.requestVisits out request w).map (fun v => (events v.exchanges).map Event.message) =
      [["ASSET FETCH", "rejected download"], ["ASSET FETCH", "rejected download"],
        ["ASSET FETCH", "rejected download"], ["ASSET FETCH", "skipping URI"]] ∧
    r.SubstitutionTold out request e w := by
  intro uri jello answers network out w r e request
  have hlast : (r.requestChecksums request).getLast? = some e := by decide +kernel
  have hserved : ∀ fetched ∈ answers, fetched.isSuccess = true ∧ fetched.body.failure = none ∧
      (∀ n ∈ fetched.contentLength, n = fetched.body.bytes.length ∧ n ≤ Decimal.largest) := by
    decide
  have hdiffers : ∀ fetched ∈ answers, e.hasher.hash fetched.body.bytes ≠ e.hash := by
    decide +kernel
  refine ⟨⟨rfl, nofun, hlast⟩, fun fetched hmem => ?_, by decide +kernel,
    substitution_told r out request e w rfl nofun hlast⟩
  obtain ⟨hsuccess, hends, hdeclared⟩ := hserved fetched hmem
  exact ⟨hsuccess, hends, hdeclared, nofun, hdiffers fetched hmem⟩

end Resolver

end AssetCache
