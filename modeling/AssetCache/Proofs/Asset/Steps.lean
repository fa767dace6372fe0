import AssetCache.Asset.Resolver
import AssetCache.Proofs.Digest.Registry
import AssetCache.Proofs.Store.Steps

/-!
# What a request does, step by step

A request is resolved by the first of its candidates that works, and what it did before was to no
effect: no entry came or went.  So the history of a resolved request is a quiet one, and then the
history of the one candidate.  A checksum works by one of the five constructors of `Hit`, a place by
one fetch and one of the four constructors of `Kept`.

Results:
1. `lookup_does`, `tryQualifiers_does`: the history of a look-up, and of all qualifiers.
2. `fetchUri_does`, `quiet_of_fetchUri_error`: the history of a fetch.
3. `fetchBlob_does`: the history of a resolved request.
-/

namespace AssetCache

variable {π ν α β : Type} {t : List Action.interface.Exchange}

/-- The histories of a resolution that is carried out on the cache, and its results. -/
def Resolution.Does (p : Resolution α) (t : List Action.interface.Exchange) (a : α) : Prop :=
  Program.Leads (I := Action.interface)
    (Program.expand (I := Request.Call.interface) Request.implement p) t a

namespace Resolution

theorem does_ask (c : Request.Call) (answer : c.Answer) :
    Does (Request.ask c) t answer ↔ (Request.implement c).Leads t answer := by
  show Program.Leads (Program.bind (Request.implement c) Program.done) t answer ↔ _
  rw [Program.bind_done]

theorem does_bind (p : Resolution α) (f : α → Resolution β) (b : β) :
    Does (p >>= f) t b ↔ ∃ t₁ t₂ a, t = t₁ ++ t₂ ∧ Does p t₁ a ∧ Does (f a) t₂ b := by
  have hexpand := Program.expand_bind (I := Request.Call.interface) (J := Action.interface)
    Request.implement p f
  exact (iff_of_eq (congrArg (Program.Leads · t b) hexpand)).trans (Program.leads_bind ..)

theorem does_log (event : Event) (f : Unit → Resolution β) (b : β) :
    Does (Request.ask (.log event) >>= f) t b ↔
      ∃ rest, t = ⟨.log event, ()⟩ :: rest ∧ Does (f ()) rest b := by
  constructor
  · rintro ⟨_, rest, rfl, h⟩
    exact ⟨rest, rfl, h⟩
  · rintro ⟨rest, rfl, h⟩
    exact ⟨(), rest, rfl, h⟩

theorem does_fetch (address : Url.WebAddress)
    (f : Except FetchError FetchedBody → Resolution β) (b : β) :
    Does (Request.ask (.fetch address) >>= f) t b ↔
      ∃ answer rest, t = ⟨.fetch address, answer⟩ :: rest ∧ Does (f answer) rest b := Iff.rfl

end Resolution

namespace Resolver

open Resolution (Does)

variable {r : Resolver} {e : Expected} {hasher : Hasher} {hash : String} {size : Nat}
  {body : Reader}

theorem isEmptyBlob_cas (hasher : Hasher) (hash : String) :
    Cache.isEmptyBlob .cas hasher hash = hasher.isEmptyHash hash := by
  simp [Cache.isEmptyBlob]

/-! ## Look-ups -/

/-- The histories of a look-up that finds a blob, and its size. -/
inductive Hit (e : Expected) : List Action.interface.Exchange → Nat → Prop
  /-- The empty blob is always there. -/
  | empty (hempty : e.hasher.isEmptyHash e.hash = true) : Hit e [] 0
  /-- There is an entry. -/
  | stored (blob : Bytes) (hempty : e.hasher.isEmptyHash e.hash = false) :
    Hit e [⟨.lookup (Entry.blobPath .cas e.hasher e.hash), some blob⟩] blob.length
  /-- The proxy states the size of a blob that nobody looks at. -/
  | claimed (size : Nat) (hempty : e.hasher.isEmptyHash e.hash = false) :
    Hit e
      [⟨.lookup (Entry.blobPath .cas e.hasher e.hash), none⟩,
        ⟨.askProxy .cas e.hash none, some (.known size)⟩]
      size
  /-- While the proxy was asked, someone else stored the blob. -/
  | arrived (blob : Bytes) (hempty : e.hasher.isEmptyHash e.hash = false) :
    Hit e
      [⟨.lookup (Entry.blobPath .cas e.hasher e.hash), none⟩,
        ⟨.askProxy .cas e.hash none, some .unknown⟩,
        ⟨.lookup (Entry.blobPath .cas e.hasher e.hash), some blob⟩]
      blob.length
  /-- The proxy does not state the size, and its blob is taken over. -/
  | filled (body : Reader) (n : BlobSize) (blob : Bytes)
    (hempty : e.hasher.isEmptyHash e.hash = false)
    (hverify : Cache.verify .cas e.hasher e.hash (n.known?.or none) body = .ok blob) :
    Hit e
      [⟨.lookup (Entry.blobPath .cas e.hasher e.hash), none⟩,
        ⟨.askProxy .cas e.hash none, some .unknown⟩,
        ⟨.lookup (Entry.blobPath .cas e.hasher e.hash), none⟩,
        ⟨.openProxy .cas e.hash none, .ok (some (body, n))⟩,
        ⟨.fill (Entry.blobPath .cas e.hasher e.hash) blob, ()⟩,
        ⟨.log (.filledFromProxy .cas e.hash blob.length), ()⟩]
      blob.length

/-- A history that shows that a blob is not there, and in which none is stored. -/
structure Missed (e : Expected) (t : List Action.interface.Exchange) : Prop where
  nonempty : e.hasher.isEmptyHash e.hash = false
  quiet : Quiet t
  absent : ∀ ⦃π ν : Type⦄ (out : Surroundings π ν) (w : World π ν), w.Allows out t →
    w.store.entries.find? (Entry.blobPath .cas e.hasher e.hash) = none

theorem Missed.append {t' : List Action.interface.Exchange} (h : Missed e t) (h' : Quiet t') :
    Missed e (t ++ t') where
  nonempty := h.nonempty
  quiet := h.quiet.append h'
  absent _ _ out w hallows := h.absent out w ((World.allows_append w).1 hallows).1

theorem Missed.after {t' : List Action.interface.Exchange} (h : Missed e t) (h' : Quiet t') :
    Missed e (t' ++ t) where
  nonempty := h.nonempty
  quiet := h'.append h.quiet
  absent _ _ out w hallows := by
    obtain ⟨h₁, h₂⟩ := (World.allows_append w).1 hallows
    rw [← (h' out w h₁).1]
    exact h.absent out _ h₂

theorem missed_of_lookup (hempty : e.hasher.isEmptyHash e.hash = false)
    (hreads : ∀ x ∈ t, Action.Reads x.1) :
    Missed e (⟨.lookup (Entry.blobPath .cas e.hasher e.hash), none⟩ :: t) where
  nonempty := hempty
  quiet := quiet_of_reads (List.forall_mem_cons.2 ⟨(trivial : Action.Reads (.lookup _)), hreads⟩)
  absent _ _ _ w hallows := (w.store.answer_lookup _).symm.trans hallows.1

/-- What a look-up that ends with `result` did. -/
def LookedUp (e : Expected) (t : List Action.interface.Exchange) : Attempt Nat → Prop
  | .ok size => Hit e t size
  | .error _ => Missed e t

theorem lookup_does {result : Attempt Nat} (hdoes : Does (lookup e) t result) :
    LookedUp e t result := by
  obtain ⟨t₁, t₂, told, rfl, hask, h⟩ := (Resolution.does_bind _ _ _).1 hdoes
  clear hdoes
  have htold := Cache.contains_leads ((Resolution.does_ask _ _).1 hask)
  cases htold with
  | empty hempty =>
    obtain ⟨rfl, rfl⟩ := h
    exact .empty (isEmptyBlob_cas _ _ ▸ hempty)
  | stored blob hempty =>
    obtain ⟨rfl, rfl⟩ := h
    exact .stored blob (isEmptyBlob_cas _ _ ▸ hempty)
  | asked answer hempty =>
    have hempty : e.hasher.isEmptyHash e.hash = false := isEmptyBlob_cas _ _ ▸ hempty
    rcases told with _ | (size | _)
    · obtain ⟨rfl, rfl⟩ := h
      exact missed_of_lookup hempty (by simp [Action.Reads])
    · obtain ⟨rfl, rfl⟩ := h
      exact .claimed size hempty
    · -- The proxy has the blob and does not tell its size, so that the blob itself is asked for.
      obtain ⟨t₃, t₄, given, rfl, hget, h⟩ := (Resolution.does_bind _ _ _).1 h
      obtain ⟨found, hfound, rfl⟩ := Cache.get_leads ((Resolution.does_ask _ _).1 hget)
      cases hfound with
      | empty he => exact absurd (isEmptyBlob_cas _ _ ▸ he) (by simp [hempty])
      | stored blob =>
        obtain ⟨rfl, rfl⟩ := h
        exact .arrived blob hempty
      | failed cause =>
        obtain ⟨rfl, rfl⟩ := h
        exact missed_of_lookup hempty (by simp [Action.Reads])
      | missing =>
        obtain ⟨rfl, rfl⟩ := h
        exact missed_of_lookup hempty (by simp [Action.Reads])
      | rejected body n cause _ =>
        obtain ⟨rfl, rfl⟩ := h
        exact missed_of_lookup hempty (by simp [Action.Reads])
      | filled body n blob hverify =>
        obtain ⟨rfl, rfl⟩ := h
        exact .filled body n blob hempty hverify

/-! ## Qualifiers -/

/-- The checksums among qualifiers that can be read, in order. -/
def checksums (r : Resolver) (qualifiers : List Qualifier) : List Expected :=
  qualifiers.filterMap fun q =>
    if q.name = Qualifier.checksumName then (r.parseChecksum q.value).toOption else none

theorem checksums_cons_skip {q : Qualifier} {rest : List Qualifier}
    (h : q.name = Qualifier.checksumName → (r.parseChecksum q.value).toOption = none) :
    r.checksums (q :: rest) = r.checksums rest :=
  List.filterMap_cons_none (by split <;> simp_all)

theorem checksums_cons_read {q : Qualifier} {rest : List Qualifier}
    (hname : q.name = Qualifier.checksumName) (hparse : r.parseChecksum q.value = .ok e) :
    r.checksums (q :: rest) = e :: r.checksums rest :=
  List.filterMap_cons_some (by simp [hname, hparse, Except.toOption])

/-- A checksum is read into a registered hasher, and a text that it takes for a digest. -/
theorem of_parseChecksum {value : String} (h : r.parseChecksum value = .ok e) :
    e.hasher ∈ r.registry.hashers ∧ e.hasher.validate e.hash = .ok () := by
  unfold parseChecksum at h
  split at h
  · exact nomatch h
  · split at h
    · exact nomatch h
    next hasher hname =>
      split at h
      · exact nomatch h
      next hvalidate =>
        obtain rfl := Except.ok.inj h
        exact ⟨Registry.mem_of_getByName hname, hvalidate⟩

theorem of_mem_checksums {qualifiers : List Qualifier} (h : e ∈ r.checksums qualifiers) :
    e.hasher ∈ r.registry.hashers ∧ e.hasher.validate e.hash = .ok () := by
  obtain ⟨q, -, hq⟩ := List.mem_filterMap.1 h
  split at hq
  · cases hparse : r.parseChecksum q.value with
    | error reason => simp [hparse, Except.toOption] at hq
    | ok e' =>
      obtain rfl : e' = e := by simpa [hparse, Except.toOption] using hq
      exact of_parseChecksum hparse
  · exact nomatch hq

theorem quiet_log (event : Event) : Quiet [⟨.log event, ()⟩] :=
  quiet_of_reads (List.forall_mem_singleton.2 (trivial : Action.Reads (.log event)))

theorem quiet_of_reportLookup {reason : SkipReason} (h : Does (reportLookup hash reason) t ()) :
    Quiet t := by
  cases reason with
  | miss => exact h.1 ▸ quiet_nil
  | _ =>
    obtain ⟨_, _, rfl, rfl, -⟩ := h
    exact quiet_log _

/-- Qualifiers that resolve a request: one of them is found, and those before it were to no
effect. -/
def Resolved (r : Resolver) (qualifiers : List Qualifier) (t : List Action.interface.Exchange)
    (response : FetchBlobResponse) : Prop :=
  ∃ e ∈ r.checksums qualifiers, ∃ size before this,
    t = before ++ this ++ [⟨.log (.checksumResolved e.hash size), ()⟩] ∧ Quiet before ∧
      Hit e this size ∧ response = resolved e size

/-- What qualifiers did, by whether they resolve the request. -/
def Qualified (r : Resolver) (expected : Option Expected) (qualifiers : List Qualifier)
    (t : List Action.interface.Exchange) : FetchBlobResponse ⊕ Option Expected → Prop
  | .inl response => r.Resolved qualifiers t response
  | .inr last =>
    Quiet t ∧ last = (r.checksums qualifiers).getLast?.or expected ∧
      ∀ e ∈ r.checksums qualifiers, Missed e t

theorem Resolved.after {qualifiers : List Qualifier} {t' : List Action.interface.Exchange}
    {response : FetchBlobResponse} (h : r.Resolved qualifiers t response) (h' : Quiet t') :
    r.Resolved qualifiers (t' ++ t) response := by
  obtain ⟨e, he, size, before, this, rfl, hquiet, hhit, rfl⟩ := h
  exact ⟨e, he, size, t' ++ before, this, by simp, h'.append hquiet, hhit, rfl⟩

theorem Qualified.skip {expected : Option Expected} {q : Qualifier} {rest : List Qualifier}
    {t' : List Action.interface.Exchange} {result : FetchBlobResponse ⊕ Option Expected}
    (hskip : r.checksums (q :: rest) = r.checksums rest) (h' : Quiet t')
    (h : r.Qualified expected rest t result) :
    r.Qualified expected (q :: rest) (t' ++ t) result := by
  cases result with
  | inl response =>
    obtain ⟨e, he, hrest⟩ := Resolved.after h h'
    exact ⟨e, hskip ▸ he, hrest⟩
  | inr last =>
    obtain ⟨hquiet, hlast, hmissed⟩ := h
    refine ⟨h'.append hquiet, hskip ▸ hlast, fun e he => ?_⟩
    exact (hmissed e (hskip ▸ he)).after h'

theorem Qualified.miss {expected : Option Expected} {q : Qualifier} {rest : List Qualifier}
    {t' : List Action.interface.Exchange} {result : FetchBlobResponse ⊕ Option Expected}
    (hread : r.checksums (q :: rest) = e :: r.checksums rest) (h' : Missed e t')
    (h : r.Qualified (some e) rest t result) :
    r.Qualified expected (q :: rest) (t' ++ t) result := by
  cases result with
  | inl response =>
    obtain ⟨e', he, hrest⟩ := Resolved.after h h'.quiet
    exact ⟨e', hread ▸ List.mem_cons_of_mem _ he, hrest⟩
  | inr last =>
    obtain ⟨hquiet, hlast, hmissed⟩ := h
    refine ⟨h'.quiet.append hquiet, ?_, fun e' he => ?_⟩
    · rw [hlast, hread, List.getLast?_cons]
      cases (r.checksums rest).getLast? <;> rfl
    · rcases List.mem_cons.1 (hread ▸ he) with rfl | he
      · exact h'.append hquiet
      · exact (hmissed e' he).after h'.quiet

theorem tryQualifiers_does {qualifiers : List Qualifier} {expected : Option Expected}
    {result : FetchBlobResponse ⊕ Option Expected}
    (h : Does (r.tryQualifiers expected qualifiers) t result) :
    r.Qualified expected qualifiers t result := by
  induction qualifiers generalizing expected t with
  | nil =>
    obtain ⟨rfl, rfl⟩ := h
    exact ⟨quiet_nil, rfl, fun e he => absurd he List.not_mem_nil⟩
  | cons q rest ih =>
    unfold tryQualifiers at h
    split at h
    next hname =>
      exact Qualified.skip (checksums_cons_skip fun h => absurd h hname) quiet_nil (ih h)
    next hname =>
      have hname : q.name = Qualifier.checksumName := Decidable.not_not.1 hname
      split at h
      next reason hparse =>
        obtain ⟨_, rfl, hthen⟩ := (Resolution.does_log _ _ _).1 h
        exact Qualified.skip (checksums_cons_skip fun _ => by simp [hparse, Except.toOption])
          (quiet_log _) (ih hthen)
      next e hparse =>
        obtain ⟨t₁, t₂, found, rfl, hlookup, hthen⟩ := (Resolution.does_bind _ _ _).1 h
        clear h
        have hread : r.checksums (q :: rest) = e :: r.checksums rest :=
          checksums_cons_read hname hparse
        have hlooked := lookup_does hlookup
        cases found with
        | ok size =>
          obtain ⟨_, rfl, rfl, rfl⟩ := (Resolution.does_log _ _ _).1 hthen
          exact ⟨e, hread ▸ List.mem_cons_self, size, [], t₁, rfl, quiet_nil, hlooked, rfl⟩
        | error reason =>
          obtain ⟨t₃, t₄, _, rfl, hreport, hrest⟩ := (Resolution.does_bind _ _ _).1 hthen
          have hmissed := Missed.append hlooked (quiet_of_reportLookup hreport)
          rw [← List.append_assoc]
          exact Qualified.miss hread hmissed (ih hrest)

/-! ## Downloads -/

/-- The histories of a download's way into the store that is reported as a success. -/
inductive Kept (hasher : Hasher) (hash : String) (size : Nat) (body : Reader) :
    List Action.interface.Exchange → Prop
  /-- The empty blob is always there. -/
  | empty (hvalidate : Cache.validate .cas hasher hash size = .ok ())
    (hempty : hasher.isEmptyHash hash = true) : Kept hasher hash size body []
  /-- There is an entry already; the body is not read. -/
  | present (hvalidate : Cache.validate .cas hasher hash size = .ok ())
    (hempty : hasher.isEmptyHash hash = false) :
    Kept hasher hash size body [⟨.begin (Entry.blobPath .cas hasher hash) true, .present⟩]
  /-- Someone else is writing the entry; the body is not read. -/
  | busy (hvalidate : Cache.validate .cas hasher hash size = .ok ())
    (hempty : hasher.isEmptyHash hash = false) :
    Kept hasher hash size body
      [⟨.begin (Entry.blobPath .cas hasher hash) true, .busy⟩,
        ⟨.log (.concurrentWrite hash (.concurrentWrite (Entry.blobPath .cas hasher hash))), ()⟩]
  /-- The body is verified and stored. -/
  | stored (blob : Bytes) (hvalidate : Cache.validate .cas hasher hash size = .ok ())
    (hempty : hasher.isEmptyHash hash = false)
    (hverify : Cache.verify .cas hasher hash (some size) body = .ok blob) :
    Kept hasher hash size body
      [⟨.begin (Entry.blobPath .cas hasher hash) true, .begun⟩,
        ⟨.finish (Entry.blobPath .cas hasher hash) (some ⟨.cas, hash, blob⟩), ()⟩]

theorem store_error {t' : List Action.interface.Exchange} {e : CacheError}
    {result : Attempt (DigestFunction × BlobDigest)} (he : e.isBenign = false)
    (h : Does
      (if e.isBenign then do
        let () ← Request.ask (.log (.concurrentWrite hash e))
        pure (.ok (hasher.function, .ofSize hash size))
      else pure (.error (.put hash e))) t' result) :
    t' = [] ∧ result = .error (.put hash e) := by
  rw [if_neg (by simp [he])] at h
  exact ⟨h.1, h.2.symm⟩

theorem store_does {d : DigestFunction × BlobDigest} :
    Does (store hasher hash size body) t (.ok d) ↔
      Kept hasher hash size body t ∧ d = (hasher.function, .ofSize hash size) := by
  constructor
  · intro h
    obtain ⟨t₁, t₂, answer, rfl, hput, hthen⟩ := (Resolution.does_bind _ _ _).1 h
    clear h
    have hstored := Cache.put_leads.1 ((Resolution.does_ask _ _).1 hput)
    cases hstored with
    | invalid e hvalidate =>
      exact nomatch (store_error (Cache.isBenign_of_validate hvalidate) hthen).2
    | empty hvalidate hempty =>
      obtain ⟨rfl, hd⟩ := hthen
      exact ⟨.empty hvalidate (isEmptyBlob_cas _ _ ▸ hempty), (Except.ok.inj hd).symm⟩
    | present hvalidate hempty =>
      obtain ⟨rfl, hd⟩ := hthen
      exact ⟨.present hvalidate (isEmptyBlob_cas _ _ ▸ hempty), (Except.ok.inj hd).symm⟩
    | busy hvalidate hempty =>
      obtain ⟨_, rfl, rfl, hd⟩ := (Resolution.does_log _ _ _).1 hthen
      exact ⟨.busy hvalidate (isEmptyBlob_cas _ _ ▸ hempty), (Except.ok.inj hd).symm⟩
    | rejected e _ _ hverify =>
      exact nomatch (store_error (Cache.isBenign_of_verify hverify) hthen).2
    | stored blob hvalidate hempty hverify =>
      obtain ⟨rfl, hd⟩ := hthen
      exact ⟨.stored blob hvalidate (isEmptyBlob_cas _ _ ▸ hempty) hverify, (Except.ok.inj hd).symm⟩
  · rintro ⟨hkept, rfl⟩
    have hput : ∀ {t answer}, Cache.Stored .cas hasher hash size body t answer →
        Does (Request.ask (.put .cas hasher hash size body)) t answer :=
      fun h => (Resolution.does_ask _ _).2 (Cache.put_leads.2 h)
    have hcas := isEmptyBlob_cas hasher hash
    refine (Resolution.does_bind _ _ _).2 ?_
    cases hkept with
    | empty hvalidate hempty =>
      exact ⟨_, [], _, rfl, hput (.empty hvalidate (hcas.trans hempty)), rfl, rfl⟩
    | present hvalidate hempty =>
      exact ⟨_, [], _, rfl, hput (.present hvalidate (hcas.trans hempty)), rfl, rfl⟩
    | busy hvalidate hempty =>
      refine ⟨_, [_], _, rfl, hput (.busy hvalidate (hcas.trans hempty)), ?_⟩
      exact (Resolution.does_log _ _ _).2 ⟨[], rfl, rfl, rfl⟩
    | stored blob hvalidate hempty hverify =>
      exact ⟨_, [], _, rfl, hput (.stored blob hvalidate (hcas.trans hempty) hverify), rfl, rfl⟩

theorem quiet_of_store_error {reason : SkipReason}
    (h : Does (store hasher hash size body) t (.error reason)) : Quiet t := by
  obtain ⟨t₁, t₂, answer, rfl, hput, hthen⟩ := (Resolution.does_bind _ _ _).1 h
  clear h
  have hstored := Cache.put_leads.1 ((Resolution.does_ask _ _).1 hput)
  cases answer with
  | ok => exact nomatch hthen.2
  | error e =>
    cases hbenign : e.isBenign with
    | true =>
      replace hthen : Does (if e.isBenign then _ else _) t₂ (Except.error reason) := hthen
      rw [if_pos hbenign] at hthen
      obtain ⟨_, rfl, _, hok⟩ := (Resolution.does_log _ _ _).1 hthen
      exact nomatch hok
    | false =>
      obtain ⟨rfl, -⟩ := store_error hbenign hthen
      rw [List.append_nil]
      exact Cache.quiet_of_put_error hstored

/-- A download that is reported as a success: the fetch, and the way of its body into the store. -/
structure Downloaded (r : Resolver) (hasher : Hasher) (expectedHash : Option String) (uri : String)
    (t : List Action.interface.Exchange) (d : DigestFunction × BlobDigest)
    (address : Url.WebAddress) (fetched : FetchedBody) (hash : String) (size : Nat) (body : Reader)
    (rest : List Action.interface.Exchange) : Prop where
  parsed : webAddress uri = .ok address
  success : fetched.isSuccess = true
  download : r.download hasher expectedHash fetched = .ok (hash, size, body)
  kept : Kept hasher hash size body rest
  history : t =
    ⟨.fetch address, .ok fetched⟩ :: ⟨.log (.fetched uri fetched.status), ()⟩ :: rest
  digest : d = (hasher.function, .ofSize hash size)

theorem fetchUri_does {expectedHash : Option String} {uri : String}
    {d : DigestFunction × BlobDigest} :
    Does (r.fetchUri hasher expectedHash uri) t (.ok d) ↔
      ∃ address fetched hash size body rest,
        r.Downloaded hasher expectedHash uri t d address fetched hash size body rest := by
  unfold fetchUri
  constructor
  · intro h
    split at h
    next => exact nomatch h.2
    next address hparsed =>
      obtain ⟨answer, rest, rfl, hthen⟩ := (Resolution.does_fetch _ _ _).1 h
      clear h
      cases answer with
      | error e => exact nomatch hthen.2
      | ok fetched =>
        obtain ⟨rest, rfl, hanswered⟩ := (Resolution.does_log _ _ _).1 hthen
        split at hanswered
        next => exact nomatch hanswered.2
        next hsuccess =>
          split at hanswered
          next => exact nomatch hanswered.2
          next hash size body hdownload =>
            obtain ⟨hkept, hd⟩ := store_does.1 hanswered
            exact ⟨address, fetched, hash, size, body, rest, hparsed, by simpa using hsuccess,
              hdownload, hkept, rfl, hd⟩
  · rintro ⟨address, fetched, hash, size, body, rest, h⟩
    rw [h.parsed, h.history]
    refine (Resolution.does_fetch _ _ _).2 ⟨_, _, rfl, (Resolution.does_log _ _ _).2 ⟨_, rfl, ?_⟩⟩
    rw [if_neg (by simp [h.success]), h.download]
    exact store_does.2 ⟨h.kept, h.digest⟩

theorem quiet_of_fetchUri_error {expectedHash : Option String} {uri : String} {reason : SkipReason}
    (h : Does (r.fetchUri hasher expectedHash uri) t (.error reason)) : Quiet t := by
  unfold fetchUri at h
  split at h
  next => exact h.1 ▸ quiet_nil
  next address _ =>
    obtain ⟨answer, rest, rfl, hthen⟩ := (Resolution.does_fetch _ _ _).1 h
    clear h
    have hfetch : Quiet [⟨.fetch address, answer⟩] :=
      quiet_of_reads (List.forall_mem_singleton.2 (trivial : Action.Reads (.fetch address)))
    cases answer with
    | error e => exact hthen.1 ▸ hfetch
    | ok fetched =>
      obtain ⟨rest, rfl, hanswered⟩ := (Resolution.does_log _ _ _).1 hthen
      refine hfetch.append ((quiet_log _).append (?_ : Quiet rest))
      split at hanswered
      next => exact hanswered.1 ▸ quiet_nil
      next =>
        split at hanswered
        next => exact hanswered.1 ▸ quiet_nil
        next => exact quiet_of_store_error hanswered

/-- The hasher of a download, and the digest that it has to match, if it has to match one. -/
def target : (expected : Option Expected) → (requested : Option Hasher) →
    Option (Hasher × Option String)
  | some e, _ => some (e.hasher, some e.hash)
  | none, some hasher => some (hasher, none)
  | none, none => none

theorem attemptUri_of_target {expected : Option Expected} {requested : Option Hasher}
    {expectedHash : Option String} (h : target expected requested = some (hasher, expectedHash))
    (uri : String) :
    r.attemptUri expected requested uri = r.fetchUri hasher expectedHash uri := by
  cases expected with
  | some e =>
    obtain ⟨rfl, rfl⟩ := Prod.mk.inj (Option.some.inj h)
    rfl
  | none =>
    cases requested with
    | none => exact nomatch h
    | some g =>
      obtain ⟨rfl, rfl⟩ := Prod.mk.inj (Option.some.inj h)
      rfl

theorem attemptUri_of_no_target {expected : Option Expected} {requested : Option Hasher}
    (h : target expected requested = none) (uri : String) :
    r.attemptUri expected requested uri = pure (.error .noHasher) := by
  cases expected with
  | some e => exact nomatch h
  | none =>
    cases requested with
    | some g => exact nomatch h
    | none => rfl

theorem exists_target_of_attemptUri {expected : Option Expected} {requested : Option Hasher}
    {uri : String} {d : DigestFunction × BlobDigest}
    (h : Does (r.attemptUri expected requested uri) t (.ok d)) :
    ∃ hasher expectedHash, target expected requested = some (hasher, expectedHash) := by
  cases htarget : target expected requested with
  | none =>
    rw [attemptUri_of_no_target htarget] at h
    exact nomatch h.2
  | some target => exact ⟨target.1, target.2, rfl⟩

theorem quiet_of_attemptUri_error {expected : Option Expected} {requested : Option Hasher}
    {uri : String} {reason : SkipReason}
    (h : Does (r.attemptUri expected requested uri) t (.error reason)) : Quiet t := by
  cases htarget : target expected requested with
  | none =>
    rw [attemptUri_of_no_target htarget] at h
    exact h.1 ▸ quiet_nil
  | some target =>
    obtain ⟨hasher, expectedHash⟩ := target
    rw [attemptUri_of_target htarget] at h
    exact quiet_of_fetchUri_error h

/-- Places resolve a request by the first of them that works, and those before it were to no effect.
How it works does not matter to what follows: anything that it may do to the same result leads to
the same response. -/
theorem tryUris_does {expected : Option Expected} {requested : Option Hasher} {uris : List String}
    {response : FetchBlobResponse} (hok : response.status = .ok)
    (h : Does (r.tryUris expected requested uris) t response) :
    ∃ uri ∈ uris, ∃ before this d, t = before ++ this ∧ Quiet before ∧
      Does (r.attemptUri expected requested uri) this (.ok d) ∧
      response = .found d.1 d.2 (some uri) ∧
      ∀ this', Does (r.attemptUri expected requested uri) this' (.ok d) →
        Does (r.tryUris expected requested uris) (before ++ this') response := by
  induction uris generalizing t with
  | nil =>
    obtain ⟨-, rfl⟩ := h
    exact absurd hok (by decide)
  | cons uri rest ih =>
    obtain ⟨t₁, t₂, answer, rfl, hattempt, hthen⟩ := (Resolution.does_bind _ _ _).1 h
    clear h
    cases answer with
    | ok d =>
      obtain ⟨rfl, rfl⟩ := hthen
      refine ⟨uri, List.mem_cons_self, [], t₁, d, by simp, quiet_nil, hattempt, rfl, ?_⟩
      intro this' hthis
      exact (Resolution.does_bind _ _ _).2 ⟨this', [], _, by simp, hthis, rfl, rfl⟩
    | error reason =>
      -- The place is passed over, in a quiet history, and one of the rest resolves the request.
      obtain ⟨t₃, rfl, hrest⟩ := (Resolution.does_log _ _ _).1 hthen
      obtain ⟨uri', hmem, before, this, d, rfl, hquiet, hdoes, hresponse, hagain⟩ := ih hrest
      let event : Action.interface.Exchange := ⟨.log (uriEvent uri reason), ()⟩
      refine ⟨uri', List.mem_cons_of_mem _ hmem, t₁ ++ event :: before, this, d, by simp [event],
        ?_, hdoes, hresponse, fun this' hthis => ?_⟩
      · exact (quiet_of_attemptUri_error hattempt).append ((quiet_log _).append hquiet)
      · refine (Resolution.does_bind _ _ _).2
          ⟨t₁, event :: (before ++ this'), _, by simp, hattempt, ?_⟩
        exact (Resolution.does_log _ _ _).2 ⟨_, rfl, hagain this' hthis⟩

/-! ## Requests -/

theorem requestHasher_does {function : DigestFunction} {requested : Option Hasher}
    (h : Does (r.requestHasher function) t requested) :
    requested = (r.registry.get function).toOption ∧ Quiet t := by
  unfold requestHasher at h
  split at h
  next hasher hget =>
    obtain ⟨rfl, rfl⟩ := h
    exact ⟨by rw [hget]; rfl, quiet_nil⟩
  next cause hget =>
    obtain ⟨_, rfl, rfl, rfl⟩ := (Resolution.does_log _ _ _).1 h
    exact ⟨by rw [hget]; rfl, quiet_log _⟩

/-- The checksums of a request that can be read, in order. -/
def requestChecksums (r : Resolver) (request : FetchRequest) : List Expected :=
  r.checksums (request.qualifiers.filterMap id)

/-- The hasher that a request's downloads are stored by, and the digest that they have to match: its
last checksum, or else the hasher of its function. -/
def requestTarget (r : Resolver) (request : FetchRequest) : Option (Hasher × Option String) :=
  target (r.requestChecksums request).getLast?
    (r.registry.get request.digestFunction).toOption

/-- A request that a download resolves: its checksums were not found, what went before the download
was to no effect, and whatever else the download may do to the same result leads to the same
response. -/
structure Retrieved (r : Resolver) (request : FetchRequest) (t : List Action.interface.Exchange)
    (response : FetchBlobResponse) (uri : String) (hasher : Hasher) (expectedHash : Option String)
    (d : DigestFunction × BlobDigest) (before this : List Action.interface.Exchange) : Prop where
  history : t = before ++ this
  quiet : Quiet before
  missed : ∀ e ∈ r.requestChecksums request, Missed e before
  targeted : r.requestTarget request = some (hasher, expectedHash)
  place : uri ∈ request.uris
  does : Does (r.fetchUri hasher expectedHash uri) this (.ok d)
  answered : response = .found d.1 d.2 (some uri)
  again : ∀ this', Does (r.fetchUri hasher expectedHash uri) this' (.ok d) →
    Does (r.fetchBlob (some request)) (before ++ this') (.ok response)

/-- A request that succeeds is resolved by one of its checksums, or by one of its places. -/
theorem fetchBlob_does {request? : Option FetchRequest} {response : FetchBlobResponse}
    (hok : response.status = .ok) (hdoes : Does (r.fetchBlob request?) t (.ok response)) :
    ∃ request, request? = some request ∧
      (r.Resolved (request.qualifiers.filterMap id) t response ∨
        ∃ uri hasher expectedHash d before this,
          r.Retrieved request t response uri hasher expectedHash d before this) := by
  cases request? with
  | none => exact nomatch hdoes.2
  | some request =>
    refine ⟨request, rfl, ?_⟩
    unfold fetchBlob at hdoes
    dsimp only at hdoes
    split at hdoes
    next =>
      obtain rfl := Except.ok.inj hdoes.2
      exact nomatch congrArg Status.code hok
    next hqualifiers =>
      obtain ⟨t₁, t₂, requested, rfl, hrequested, hthen⟩ := (Resolution.does_bind _ _ _).1 hdoes
      clear hdoes
      obtain ⟨rfl, hquiet₁⟩ := requestHasher_does hrequested
      obtain ⟨t₃, t₄, result, rfl, hqualified, hrest⟩ := (Resolution.does_bind _ _ _).1 hthen
      have htried := tryQualifiers_does hqualified
      cases result with
      | inl found =>
        obtain ⟨rfl, hfound⟩ := hrest
        obtain rfl := Except.ok.inj hfound
        rw [List.append_nil]
        exact .inl (Resolved.after htried hquiet₁)
      | inr last =>
        obtain ⟨hquiet₃, hlast, hmissed⟩ := htried
        obtain ⟨t₅, t₆, found, rfl, huris, hend⟩ := (Resolution.does_bind _ _ _).1 hrest
        obtain ⟨rfl, hfound⟩ := hend
        obtain rfl := Except.ok.inj hfound
        obtain ⟨uri, hmem, before, this, d, rfl, hquiet, hattempt, hresponse, hagain⟩ :=
          tryUris_does hok huris
        rw [Option.or_none] at hlast
        subst hlast
        obtain ⟨hasher, expectedHash, htarget⟩ := exists_target_of_attemptUri hattempt
        rw [attemptUri_of_target htarget] at hattempt
        have hbefore := hquiet₁.append (hquiet₃.append hquiet)
        refine .inr ⟨uri, hasher, expectedHash, d, t₁ ++ (t₃ ++ before), this, by simp, hbefore,
          fun e he => ((hmissed e he).append hquiet).after hquiet₁, htarget, hmem, hattempt,
          hresponse, fun this' hthis => ?_⟩
        -- The same qualifiers are passed over again, whatever becomes of the place.
        have hagain' := hagain this' (attemptUri_of_target htarget uri ▸ hthis)
        unfold fetchBlob
        dsimp only
        rw [if_neg hqualifiers]
        refine (Resolution.does_bind _ _ _).2
          ⟨t₁, t₃ ++ (before ++ this'), _, by simp, hrequested, ?_⟩
        refine (Resolution.does_bind _ _ _).2 ⟨t₃, before ++ this', _, rfl, hqualified, ?_⟩
        exact (Resolution.does_bind _ _ _).2 ⟨before ++ this', [], _, by simp, hagain', rfl, rfl⟩

/-- What a request that runs alone does leads it to its answer. -/
theorem does_history {out : Surroundings π ν} {w : World π ν} {request? : Option FetchRequest}
    {result : Except AssetError FetchBlobResponse}
    (hrun : ((r.fetchBlobOperation request?).run out w).1 = result) :
    Does (r.fetchBlob request?) ((r.fetchBlobOperation request?).history out w) result := by
  rw [← hrun]
  exact Operation.leads_history out (r.fetchBlobOperation request?) w

theorem retrieved_of_does {request? : Option FetchRequest} {response : FetchBlobResponse}
    {uri : String} (hok : response.status = .ok) (huri : response.uri = some uri)
    (hdoes : Does (r.fetchBlob request?) t (.ok response)) :
    ∃ request, request? = some request ∧ ∃ hasher expectedHash d before this,
      r.Retrieved request t response uri hasher expectedHash d before this := by
  obtain ⟨request, hrequest, hhit | hdownload⟩ := fetchBlob_does hok hdoes
  · obtain ⟨e, -, size, before, this, -, -, -, rfl⟩ := hhit
    exact nomatch huri
  · obtain ⟨place, hasher, expectedHash, d, before, this, hret⟩ := hdownload
    obtain rfl : place = uri := by
      rw [hret.answered] at huri
      exact Option.some.inj huri
    exact ⟨request, hrequest, hasher, expectedHash, d, before, this, hret⟩

theorem resolved_of_does {request? : Option FetchRequest} {response : FetchBlobResponse}
    (hok : response.status = .ok) (huri : response.uri = none)
    (hdoes : Does (r.fetchBlob request?) t (.ok response)) :
    ∃ request, request? = some request ∧
      r.Resolved (request.qualifiers.filterMap id) t response := by
  obtain ⟨request, hrequest, hhit | hdownload⟩ := fetchBlob_does hok hdoes
  · exact ⟨request, hrequest, hhit⟩
  · obtain ⟨place, hasher, expectedHash, d, before, this, hret⟩ := hdownload
    rw [hret.answered] at huri
    exact nomatch huri

end Resolver

end AssetCache
