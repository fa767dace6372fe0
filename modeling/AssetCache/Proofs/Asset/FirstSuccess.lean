import AssetCache.Proofs.Asset.Download
import AssetCache.Proofs.Asset.Outcome

/-!
# The first candidate that works

A request is resolved by the first of its candidates that works: of its checksums that can be read,
and then of its places.  `Resolver.specified` says so in these words: it runs through two lists and
stops at the first success, and says of each candidate only what it takes to succeed.  A resolver
that runs alone does as it says, whatever the registry, the store, the proxy, the network and the
request are, but for what it writes to the log.

Results:
1. `outcome_fetchBlob`: a resolver answers and acts as specified.
2. `knownSize_iff`, `retrieve_iff`: what it takes for a checksum and for a place to work.
3. `offline_of_fetchBlob`: nothing is fetched for a request that a checksum resolves.
4. `first_success`: all of these, and which requests fail or are refused.
-/

namespace AssetCache

variable {π ν α β : Type} {t : List Action.interface.Exchange}

/-! ## The specification -/

/-- The first of a list for which an attempt succeeds, with what it gives, and the state that all
attempts up to it lead to. -/
def firstSuccess {σ : Type} (attempt : α → σ → Option β × σ) : List α → σ → Option (α × β) × σ
  | [], s => (none, s)
  | a :: rest, s =>
    match attempt a s with
    | (some b, s') => (some (a, b), s')
    | (none, s') => firstSuccess attempt rest s'

theorem firstSuccess_cons_some {σ : Type} {attempt : α → σ → Option β × σ} {a : α} {b : β}
    {s s' : σ} (h : attempt a s = (some b, s')) (rest : List α) :
    firstSuccess attempt (a :: rest) s = (some (a, b), s') := by
  rw [firstSuccess, h]

theorem firstSuccess_cons_none {σ : Type} {attempt : α → σ → Option β × σ} {a : α} {s s' : σ}
    (h : attempt a s = (none, s')) (rest : List α) :
    firstSuccess attempt (a :: rest) s = firstSuccess attempt rest s' := by
  rw [firstSuccess, h]

/-- What holds at first, and is kept by attempts that fail, holds before each attempt and, where all
of them fail, at the end. -/
theorem firstSuccess_none {σ : Type} {attempt : α → σ → Option β × σ} {P : σ → Prop} {l : List α}
    {s s' : σ} (hs : P s)
    (hfail : ∀ a ∈ l, ∀ s, P s → (attempt a s).1 = none → P (attempt a s).2)
    (h : firstSuccess attempt l s = (none, s')) :
    P s' ∧ ∀ a ∈ l, ∃ s, P s ∧ (attempt a s).1 = none := by
  induction l generalizing s with
  | nil =>
    obtain rfl : s = s' := congrArg Prod.snd h
    exact ⟨hs, nofun⟩
  | cons a rest ih =>
    have hkeep := hfail a List.mem_cons_self s hs
    cases hattempt : attempt a s with
    | mk result s₁ =>
      cases result with
      | some b =>
        rw [firstSuccess_cons_some hattempt] at h
        exact nomatch h
      | none =>
        rw [hattempt] at hkeep
        rw [firstSuccess_cons_none hattempt] at h
        obtain ⟨hend, hrest⟩ := ih (hkeep rfl) (fun a ha => hfail a (List.mem_cons_of_mem _ ha)) h
        exact ⟨hend, List.forall_mem_cons.2 ⟨⟨s, hs, congrArg Prod.fst hattempt⟩, hrest⟩⟩

/-- What holds at first, and is kept by attempts that fail, holds before the one that succeeds. -/
theorem firstSuccess_some {σ : Type} {attempt : α → σ → Option β × σ} {P : σ → Prop} {l : List α}
    {s s' : σ} {a : α} {b : β} (hs : P s)
    (hfail : ∀ a ∈ l, ∀ s, P s → (attempt a s).1 = none → P (attempt a s).2)
    (h : firstSuccess attempt l s = (some (a, b), s')) :
    a ∈ l ∧ ∃ s, P s ∧ attempt a s = (some b, s') := by
  induction l generalizing s with
  | nil => exact nomatch h
  | cons first rest ih =>
    have hkeep := hfail first List.mem_cons_self s hs
    cases hattempt : attempt first s with
    | mk result s₁ =>
      cases result with
      | some found =>
        rw [firstSuccess_cons_some hattempt] at h
        obtain ⟨hfound, rfl⟩ := Prod.mk.inj h
        obtain ⟨rfl, rfl⟩ := Prod.mk.inj (Option.some.inj hfound)
        exact ⟨List.mem_cons_self, s, hs, hattempt⟩
      | none =>
        rw [hattempt] at hkeep
        rw [firstSuccess_cons_none hattempt] at h
        obtain ⟨hmem, hbefore⟩ :=
          ih (hkeep rfl) (fun a ha => hfail a (List.mem_cons_of_mem _ ha)) h
        exact ⟨List.mem_cons_of_mem _ hmem, hbefore⟩

/-- Two runs through a list of which the attempts give the same results: those that fail lead from
states that correspond to such states again, and the one that succeeds to states as `Q` says. -/
theorem firstSuccess_related {σ τ : Type} {attempt : α → σ → Option β × σ}
    {attempt' : α → τ → Option β × τ} {R : σ → τ → Prop} {Q : α × β → σ → τ → Prop} {l : List α}
    {s : σ} {s' : τ} (hs : R s s')
    (hattempt : ∀ a ∈ l, ∀ s s', R s s' →
      (attempt a s).1 = (attempt' a s').1 ∧
        ((attempt a s).1 = none → R (attempt a s).2 (attempt' a s').2) ∧
        ∀ b, (attempt a s).1 = some b → Q (a, b) (attempt a s).2 (attempt' a s').2) :
    ∃ found t t', firstSuccess attempt l s = (found, t) ∧
      firstSuccess attempt' l s' = (found, t') ∧ (found = none → R t t') ∧
      ∀ x, found = some x → Q x t t' := by
  induction l generalizing s s' with
  | nil => exact ⟨none, s, s', rfl, rfl, fun _ => hs, nofun⟩
  | cons a rest ih =>
    obtain ⟨hresult, hfail, hsuccess⟩ := hattempt a List.mem_cons_self s s' hs
    cases hfirst : attempt a s with
    | mk result s₁ =>
      cases hsecond : attempt' a s' with
      | mk result' s₁' =>
        rw [hfirst, hsecond] at hresult hfail hsuccess
        obtain rfl : result = result' := hresult
        cases result with
        | some b =>
          refine ⟨_, s₁, s₁', firstSuccess_cons_some hfirst rest,
            firstSuccess_cons_some hsecond rest, nofun, fun x hx => ?_⟩
          obtain rfl := Option.some.inj hx
          exact hsuccess b rfl
        | none =>
          rw [firstSuccess_cons_none hfirst, firstSuccess_cons_none hsecond]
          exact ih (hfail rfl) fun a ha => hattempt a (List.mem_cons_of_mem _ ha)

/-- Two runs through a list go alike if their attempts do, from states that correspond; those that
fail have to lead to such states again. -/
theorem firstSuccess_alike {σ τ : Type} {attempt : α → σ → Option β × σ}
    {attempt' : α → τ → Option β × τ} {R Q : σ → τ → Prop} {l : List α} {s : σ} {s' : τ}
    (hs : R s s') (hweaker : ∀ s s', R s s' → Q s s')
    (hattempt : ∀ a ∈ l, ∀ s s', R s s' →
      (attempt a s).1 = (attempt' a s').1 ∧ Q (attempt a s).2 (attempt' a s').2 ∧
        ((attempt a s).1 = none → R (attempt a s).2 (attempt' a s').2)) :
    (firstSuccess attempt l s).1 = (firstSuccess attempt' l s').1 ∧
      Q (firstSuccess attempt l s).2 (firstSuccess attempt' l s').2 := by
  obtain ⟨found, t, t', hfirst, hsecond, hfail, hsuccess⟩ :=
    firstSuccess_related (Q := fun _ => Q) hs fun a ha s s' hs =>
      have ⟨hresult, hstates, hnone⟩ := hattempt a ha s s' hs
      ⟨hresult, hnone, fun _ _ => hstates⟩
  rw [hfirst, hsecond]
  cases found with
  | none => exact ⟨rfl, hweaker t t' (hfail rfl)⟩
  | some x => exact ⟨rfl, hsuccess x rfl⟩

namespace Resolver

/-- The size of a blob in the store: what the store says when it is asked whether it has the blob,
or, if it does not know, what comes with the blob itself. -/
def knownSize (out : Surroundings π ν) (e : Expected) (w : World π ν) : Option Nat × World π ν :=
  let told := w.ask out (.contains .cas e.hasher e.hash none)
  match told.1 with
  | none => (none, told.2)
  | some (.known size) => (some size, told.2)
  | some .unknown =>
    let given := told.2.ask out (.get .cas e.hasher e.hash none 0)
    match given.1 with
    | .ok (some (_, .known size)) => (some size, given.2)
    | _ => (none, given.2)

/-- Whether a download counts as stored: it is, or someone else is storing that blob. -/
def accepted : Except CacheError Unit → Bool
  | .ok () => true
  | .error (.concurrentWrite _) => true
  | _ => false

/-- Download a place into the store. -/
def retrieve (r : Resolver) (out : Surroundings π ν) (target : Option (Hasher × Option String))
    (uri : String) (w : World π ν) : Option (DigestFunction × BlobDigest) × World π ν :=
  match target, Url.parse uri with
  | some (hasher, expectedHash), .ok (.web address) =>
    let fetched := w.ask out (.fetch address)
    match fetched.1 with
    | .error _ => (none, fetched.2)
    | .ok answer =>
      match answer.isSuccess, r.download hasher expectedHash answer with
      | true, .ok (hash, size, body) =>
        let put := fetched.2.ask out (.put .cas hasher hash size body)
        (if accepted put.1 then some (hasher.function, .ofSize hash size) else none, put.2)
      | _, _ => (none, fetched.2)
  | _, _ => (none, w)

/-- What a request is answered, and the world after it. -/
def specified (r : Resolver) (out : Surroundings π ν) :
    Option FetchRequest → World π ν → Except AssetError FetchBlobResponse × World π ν
  | none, w => (.error (.invalidArgument "expected a non-nil FetchBlobRequest"), w)
  | some request, w =>
    if none ∈ request.qualifiers then
      (.ok (.invalidArgument "unexpected nil qualifier in FetchBlobRequest"), w)
    else
      match firstSuccess (knownSize out) (r.requestChecksums request) w with
      | (some (e, size), w') =>
        (.ok (.found e.hasher.function (.ofSize e.hash size) none), w')
      | (none, w') =>
        match firstSuccess (r.retrieve out (r.requestTarget request)) request.uris w' with
        | (some (uri, function, digest), w'') => (.ok (.found function digest (some uri)), w'')
        | (none, w'') => (.ok .notFound, w'')

/-! ## Checksums -/

variable {r : Resolver} {out : Surroundings π ν}

open Resolution (outcome outcome_ask outcome_bind outcome_log outcome_map outcome_silent
  silent_of_outcome)

theorem knownSize_silent (e : Expected) (w : World π ν) :
    knownSize out e w.silent = knownSize out e w := by
  unfold knownSize
  rw [World.ask_silent]

theorem outcome_lookup (e : Expected) (w : World π ν) :
    Prod.map Except.toOption id (outcome out (lookup e) w) = knownSize out e w := by
  unfold lookup knownSize
  rw [outcome_bind, outcome_ask]
  generalize hw : w.ask out (.contains .cas e.hasher e.hash none) = told
  have hsilent : told.2.silent = told.2 := hw ▸ rfl
  obtain ⟨told, w'⟩ := told
  rcases told with _ | (size | _)
  · exact congrArg (Prod.mk _) hsilent
  · exact congrArg (Prod.mk _) hsilent
  · dsimp only
    rw [outcome_bind, outcome_ask]
    generalize hw' : w'.ask out (.get .cas e.hasher e.hash none 0) = given
    have hsilent' : given.2.silent = given.2 := hw' ▸ rfl
    obtain ⟨answer, w''⟩ := given
    rcases answer with cause | (_ | ⟨reader, size | _⟩)
    · exact congrArg (Prod.mk _) hsilent'
    · exact congrArg (Prod.mk _) hsilent'
    · exact congrArg (Prod.mk _) hsilent'
    · exact congrArg (Prod.mk _) hsilent'

theorem outcome_reportLookup (hash : String) (reason : SkipReason) (f : Unit → Resolution β)
    (w : World π ν) : outcome out (reportLookup hash reason >>= f) w = outcome out (f ()) w := by
  cases reason with
  | miss => rfl
  | _ => exact outcome_log _ f w

/-- What comes of qualifiers, by the first of their checksums that is found. -/
def qualified (last : Option Expected) :
    Option (Expected × Nat) → FetchBlobResponse ⊕ Option Expected
  | some (e, size) => .inl (resolved e size)
  | none => .inr last

theorem outcome_tryQualifiers (qualifiers : List Qualifier) (expected : Option Expected)
    (w : World π ν) :
    outcome out (r.tryQualifiers expected qualifiers) w =
      Prod.map (qualified ((r.checksums qualifiers).getLast?.or expected)) id
        (firstSuccess (knownSize out) (r.checksums qualifiers) w.silent) := by
  induction qualifiers generalizing expected w with
  | nil => rfl
  | cons q rest ih =>
    unfold tryQualifiers
    split
    next hname => rw [ih, checksums_cons_skip fun h => absurd h hname]
    next hname =>
      have hname : q.name = Qualifier.checksumName := Decidable.not_not.1 hname
      split
      next reason hparse =>
        rw [checksums_cons_skip fun _ => by simp [hparse, Except.toOption]]
        exact (outcome_log _ _ w).trans (ih expected w)
      next e hparse =>
        rw [checksums_cons_read hname hparse, outcome_bind]
        have hlookup : Prod.map Except.toOption id (outcome out (lookup e) w) =
            knownSize out e w := outcome_lookup e w
        have hsilent : (outcome out (lookup e) w).2.silent = (outcome out (lookup e) w).2 := rfl
        generalize outcome out (lookup e) w = looked at hlookup hsilent
        obtain ⟨found, w'⟩ := looked
        rw [← knownSize_silent] at hlookup
        cases found with
        | ok size =>
          rw [firstSuccess_cons_some hlookup.symm]
          exact (outcome_log _ _ w').trans (congrArg (Prod.mk _) hsilent)
        | error reason =>
          rw [firstSuccess_cons_none hlookup.symm]
          refine (outcome_reportLookup e.hash reason _ w').trans ((ih (some e) w').trans ?_)
          have hlast : (r.checksums rest).getLast?.or (some e) =
              (e :: r.checksums rest).getLast?.or expected := by
            rw [List.getLast?_cons]
            cases (r.checksums rest).getLast? <;> rfl
          rw [hlast, show w'.silent = w' from hsilent]
          rfl

/-! ## Places -/

theorem isBenign_iff (e : CacheError) : e.isBenign = accepted (.error e) := by
  cases e <;> rfl

theorem outcome_store (hasher : Hasher) (hash : String) (size : Nat) (body : Reader)
    (w : World π ν) :
    Prod.map Except.toOption id (outcome out (store hasher hash size body) w) =
      (if accepted (w.ask out (.put .cas hasher hash size body)).1
        then some (hasher.function, BlobDigest.ofSize hash size) else none,
        (w.ask out (.put .cas hasher hash size body)).2) := by
  unfold store
  rw [outcome_bind, outcome_ask]
  generalize hw : w.ask out (.put .cas hasher hash size body) = put
  have hsilent : put.2.silent = put.2 := hw ▸ rfl
  obtain ⟨answer, w'⟩ := put
  cases answer with
  | ok done => exact congrArg (Prod.mk _) hsilent
  | error cause =>
    dsimp only
    rw [← isBenign_iff]
    cases cause.isBenign with
    | false => exact congrArg (Prod.mk _) hsilent
    | true =>
      refine (congrArg (Prod.map Except.toOption id) (outcome_log _ _ w')).trans ?_
      exact congrArg (Prod.mk _) hsilent

theorem outcome_fetchUri (hasher : Hasher) (expectedHash : Option String) (uri : String)
    (w : World π ν) :
    Prod.map Except.toOption id (outcome out (r.fetchUri hasher expectedHash uri) w) =
      r.retrieve out (some (hasher, expectedHash)) uri w.silent := by
  unfold fetchUri webAddress retrieve
  cases Url.parse uri with
  | error e => rfl
  | ok address =>
    cases address with
    | other scheme => rfl
    | web address =>
      dsimp only
      rw [outcome_bind, outcome_ask, World.ask_silent]
      generalize hw : w.ask out (.fetch address) = fetched
      have hsilent : fetched.2.silent = fetched.2 := hw ▸ rfl
      obtain ⟨answer, w'⟩ := fetched
      cases answer with
      | error e => exact congrArg (Prod.mk _) hsilent
      | ok answer =>
        refine (congrArg (Prod.map Except.toOption id) (outcome_log _ _ w')).trans ?_
        dsimp only
        cases answer.isSuccess with
        | false => exact congrArg (Prod.mk _) hsilent
        | true =>
          cases r.download hasher expectedHash answer with
          | error reason => exact congrArg (Prod.mk _) hsilent
          | ok handed => exact outcome_store ..

theorem outcome_attemptUri (expected : Option Expected) (requested : Option Hasher) (uri : String)
    (w : World π ν) :
    Prod.map Except.toOption id (outcome out (r.attemptUri expected requested uri) w) =
      r.retrieve out (target expected requested) uri w.silent := by
  cases htarget : target expected requested with
  | none =>
    rw [attemptUri_of_no_target htarget]
    rfl
  | some place =>
    rw [attemptUri_of_target htarget]
    exact outcome_fetchUri ..

/-- What comes of places, by the first of them that is downloaded. -/
def downloaded : Option (String × DigestFunction × BlobDigest) → FetchBlobResponse
  | some (uri, function, digest) => .found function digest (some uri)
  | none => .notFound

theorem outcome_tryUris (expected : Option Expected) (requested : Option Hasher)
    (uris : List String) (w : World π ν) :
    outcome out (r.tryUris expected requested uris) w =
      Prod.map downloaded id
        (firstSuccess (r.retrieve out (target expected requested)) uris w.silent) := by
  induction uris generalizing w with
  | nil => rfl
  | cons uri rest ih =>
    unfold tryUris
    rw [outcome_bind]
    have hattempt : Prod.map Except.toOption id
          (outcome out (r.attemptUri expected requested uri) w) =
        r.retrieve out (target expected requested) uri w.silent :=
      outcome_attemptUri expected requested uri w
    have hsilent : (outcome out (r.attemptUri expected requested uri) w).2.silent =
        (outcome out (r.attemptUri expected requested uri) w).2 := rfl
    generalize outcome out (r.attemptUri expected requested uri) w = attempt at hattempt hsilent
    obtain ⟨answer, w'⟩ := attempt
    cases answer with
    | ok d =>
      rw [firstSuccess_cons_some hattempt.symm]
      exact congrArg (Prod.mk _) hsilent
    | error reason =>
      rw [firstSuccess_cons_none hattempt.symm]
      refine (outcome_log _ _ w').trans ((ih w').trans ?_)
      rw [show w'.silent = w' from hsilent]
      rfl

/-! ## Requests -/

theorem outcome_requestHasher (function : DigestFunction) (f : Option Hasher → Resolution β)
    (w : World π ν) :
    outcome out (r.requestHasher function >>= f) w =
      outcome out (f (r.registry.get function).toOption) w := by
  unfold requestHasher
  cases r.registry.get function with
  | ok hasher => rfl
  | error cause => exact outcome_log _ (fun _ => f none) w

theorem any_isNone_iff {qualifiers : List (Option Qualifier)} :
    qualifiers.any Option.isNone = true ↔ none ∈ qualifiers := by
  simp [List.any_eq_true, Option.isNone_iff_eq_none]

theorem outcome_fetchBlob (request? : Option FetchRequest) (w : World π ν) :
    outcome out (r.fetchBlob request?) w = r.specified out request? w.silent := by
  cases request? with
  | none => rfl
  | some request =>
    unfold fetchBlob specified
    dsimp only
    by_cases hnil : none ∈ request.qualifiers
    · rw [if_pos hnil, if_pos (any_isNone_iff.2 hnil)]
      rfl
    · rw [if_neg hnil, if_neg (mt any_isNone_iff.1 hnil), outcome_requestHasher, outcome_bind]
      have hchecksums : outcome out (r.tryQualifiers none (request.qualifiers.filterMap id)) w =
          Prod.map (qualified (r.requestChecksums request).getLast?) id
            (firstSuccess (knownSize out) (r.requestChecksums request) w.silent) := by
        rw [outcome_tryQualifiers, Option.or_none]
        rfl
      have hsilent := silent_of_outcome hchecksums
      rw [hchecksums]
      generalize firstSuccess (knownSize out) (r.requestChecksums request) w.silent = first
        at hsilent ⊢
      obtain ⟨found, w'⟩ := first
      cases found with
      | some hit => exact congrArg (Prod.mk _) hsilent
      | none =>
        show outcome out (r.tryUris (r.requestChecksums request).getLast?
          (r.registry.get request.digestFunction).toOption request.uris >>= fun response =>
            pure (Except.ok response)) w' = _
        rw [outcome_map, outcome_tryUris, show w'.silent = w' from hsilent]
        show Prod.map Except.ok id (Prod.map downloaded id
          (firstSuccess (r.retrieve out (r.requestTarget request)) request.uris w')) = _
        dsimp only
        generalize firstSuccess (r.retrieve out (r.requestTarget request)) request.uris w' = second
        obtain ⟨_ | place, w''⟩ := second
        · rfl
        · rfl

/-! ## What it takes -/

/-- A body can be read into memory, of no more octets than the cap. -/
def Buffered (cap : Option Nat) (body : Reader) (blob : Bytes) : Prop :=
  match cap with
  | none => body.readAll = .ok blob
  | some limit => body.read (Reader.oneMore limit) = .ok blob ∧ blob.length ≤ limit

/-- What of a fetched body is put into the store. -/
inductive Ready (r : Resolver) (hasher : Hasher) (expectedHash : Option String)
    (fetched : FetchedBody) : String → Nat → Reader → Prop
  /-- The body as it comes, where it has to match a digest and its length is declared. -/
  | streamed (hash : String) (size : Nat) (hexpected : expectedHash = some hash)
    (hdeclared : fetched.contentLength = some size) :
    Ready r hasher expectedHash fetched hash size fetched.body
  /-- Otherwise what was read of it, if that is as declared and as expected. -/
  | buffered (blob : Bytes) (hunknown : expectedHash = none ∨ fetched.contentLength = none)
    (hread : Buffered r.config.maxBufferedBytes fetched.body blob)
    (hdeclared : ∀ n, fetched.contentLength = some n → n = blob.length)
    (hexpected : ∀ x, expectedHash = some x → x = hasher.hash blob) :
    Ready r hasher expectedHash fetched (hasher.hash blob) blob.length (.ofBytes blob)

theorem bufferBody_iff {cap declared : Option Nat} {body : Reader} {blob : Bytes} :
    bufferBody cap declared body = .ok blob ↔
      Buffered cap body blob ∧ ∀ n, declared = some n → n = blob.length := by
  rw [bufferBody_eq]
  unfold Buffered
  cases cap with
  | none =>
    dsimp only
    cases body.readAll with
    | error reason => simp
    | ok found => simp [checkDeclared_iff]
  | some limit =>
    dsimp only
    by_cases hlarge : declared.any (limit < ·) = true
    · -- A body of that length would not be below the cap.
      rw [if_pos hlarge]
      refine ⟨nofun, fun ⟨⟨_, hlimit⟩, hlength⟩ => ?_⟩
      cases declared with
      | none => exact nomatch hlarge
      | some n =>
        have hn : limit < n := of_decide_eq_true hlarge
        have hlength := hlength n rfl
        omega
    · rw [if_neg hlarge]
      cases body.read (Reader.oneMore limit) with
      | error reason => simp
      | ok found =>
        dsimp only
        by_cases hlimit : limit < found.length
        · rw [if_pos hlimit]
          refine ⟨nofun, fun ⟨⟨hfound, hle⟩, _⟩ => ?_⟩
          obtain rfl := Except.ok.inj hfound
          omega
        · rw [if_neg hlimit, checkDeclared_iff]
          constructor
          · rintro ⟨rfl, hlength⟩
            exact ⟨⟨rfl, Nat.le_of_not_lt hlimit⟩, hlength⟩
          · rintro ⟨⟨hfound, -⟩, hlength⟩
            exact ⟨Except.ok.inj hfound, hlength⟩

theorem download_iff {hasher : Hasher} {expectedHash : Option String} {fetched : FetchedBody}
    {hash : String} {size : Nat} {body : Reader} :
    r.download hasher expectedHash fetched = .ok (hash, size, body) ↔
      r.Ready hasher expectedHash fetched hash size body := by
  constructor
  · intro h
    cases download_cases h with
    | streamed hash size hexpected hdeclared => exact .streamed _ _ hexpected hdeclared
    | buffered blob hunknown hexpected hread =>
      obtain ⟨hread, hdeclared⟩ := bufferBody_iff.1 hread
      exact .buffered blob hunknown hread hdeclared hexpected
  · intro h
    cases h with
    | streamed hash size hexpected hdeclared =>
      unfold download
      rw [hexpected, hdeclared]
    | buffered blob hunknown hread hdeclared hexpected =>
      have hbuffered := bufferBody_iff.2 ⟨hread, hdeclared⟩
      have hfilter : expectedHash.filter (· ≠ hasher.hash blob) = none := by
        cases expectedHash with
        | none => rfl
        | some x => simp [hexpected x rfl]
      have hverified : r.bufferVerified hasher expectedHash fetched =
          .ok (hasher.hash blob, blob.length, .ofBytes blob) := by
        unfold bufferVerified
        rw [hbuffered]
        dsimp only
        rw [hfilter]
      unfold download
      split
      next hash size hdeclared' =>
        rcases hunknown with hnone | hnone
        · exact nomatch hnone
        · exact nomatch hnone.symm.trans hdeclared'
      next => exact hverified

/-- The size that the store states of a blob. -/
inductive Sized (out : Surroundings π ν) (e : Expected) (w : World π ν) (size : Nat) : Prop
  /-- It states it when it is asked whether it has the blob. -/
  | told (htold : (w.ask out (.contains .cas e.hasher e.hash none)).1 = some (.known size))
  /-- It has the blob, and states the size when it is asked for the blob itself. -/
  | given (body : Reader)
    (htold : (w.ask out (.contains .cas e.hasher e.hash none)).1 = some .unknown)
    (hgiven : ((w.ask out (.contains .cas e.hasher e.hash none)).2.ask out
      (.get .cas e.hasher e.hash none 0)).1 = .ok (some (body, .known size)))

theorem knownSize_iff {e : Expected} {w : World π ν} {size : Nat} :
    (knownSize out e w).1 = some size ↔ Sized out e w size := by
  unfold knownSize
  constructor
  · intro h
    dsimp only at h
    split at h
    next => exact nomatch h
    next htold =>
      obtain rfl := Option.some.inj h
      exact .told htold
    next htold =>
      split at h
      next hgiven =>
        obtain rfl := Option.some.inj h
        exact .given _ htold hgiven
      next => exact nomatch h
  · intro h
    cases h with
    | told htold => simp only [htold]
    | given body htold hgiven => simp only [htold, hgiven]

/-- A place is downloaded: it is a web address, its fetch is answered with success, what was served
passes the checks that are made of it, and the store takes it or is being given it by someone
else. -/
inductive Placed (r : Resolver) (out : Surroundings π ν) (uri : String) (w : World π ν) :
    Option (Hasher × Option String) → DigestFunction × BlobDigest → Prop
  | stored (hasher : Hasher) (expectedHash : Option String) (address : Url.WebAddress)
    (fetched : FetchedBody) (hash : String) (size : Nat) (body : Reader)
    (hparse : Url.parse uri = .ok (.web address))
    (hfetch : (w.ask out (.fetch address)).1 = .ok fetched)
    (hstatus : 200 ≤ fetched.status ∧ fetched.status < 300)
    (hready : r.Ready hasher expectedHash fetched hash size body)
    (hput : ((w.ask out (.fetch address)).2.ask out (.put .cas hasher hash size body)).1 = .ok () ∨
      ∃ path, ((w.ask out (.fetch address)).2.ask out (.put .cas hasher hash size body)).1 =
        .error (.concurrentWrite path)) :
    Placed r out uri w (some (hasher, expectedHash)) (hasher.function, .ofSize hash size)

theorem accepted_iff {answer : Except CacheError Unit} :
    accepted answer = true ↔ answer = .ok () ∨ ∃ path, answer = .error (.concurrentWrite path) := by
  rcases answer with cause | done
  · cases cause <;> simp [accepted]
  · simp [accepted]

theorem isSuccess_iff {fetched : FetchedBody} :
    fetched.isSuccess = true ↔ 200 ≤ fetched.status ∧ fetched.status < 300 := by
  simp [FetchedBody.isSuccess]

theorem retrieve_iff {target : Option (Hasher × Option String)} {uri : String} {w : World π ν}
    {d : DigestFunction × BlobDigest} :
    (r.retrieve out target uri w).1 = some d ↔ r.Placed out uri w target d := by
  unfold retrieve
  constructor
  · intro h
    split at h
    next hasher expectedHash address hparse =>
      dsimp only at h
      split at h
      next => exact nomatch h
      next fetched hfetch =>
        split at h
        next hash size body hsuccess hdownload =>
          dsimp only at h
          split at h
          next haccepted =>
            obtain rfl := Option.some.inj h
            exact .stored hasher expectedHash address fetched hash size body hparse hfetch
              (isSuccess_iff.1 hsuccess) (download_iff.1 hdownload) (accepted_iff.1 haccepted)
          next => exact nomatch h
        next => exact nomatch h
    next => exact nomatch h
  · intro h
    cases h with
    | stored hasher expectedHash address fetched hash size body hparse hfetch hstatus hready hput =>
      simp only [hparse, hfetch, isSuccess_iff.2 hstatus, download_iff.2 hready,
        if_pos (accepted_iff.2 hput)]

/-! ## Nothing is fetched for a checksum -/

/-- Nothing is fetched in a history. -/
def Offline (t : List Action.interface.Exchange) : Prop :=
  ∀ x ∈ t, ¬ Action.Fetches x.1

theorem Offline.append {t' : List Action.interface.Exchange} (h : Offline t) (h' : Offline t') :
    Offline (t ++ t') :=
  List.forall_mem_append.2 ⟨h, h'⟩

theorem offline_nil : Offline [] := fun _ hmem => nomatch hmem

theorem offline_log (event : Event) : Offline [⟨.log event, ()⟩] :=
  List.forall_mem_singleton.2 id

theorem offline_of_told {kind : EntryKind} {hasher : Hasher} {hash : String} {size : Option Nat}
    {answer : Option BlobSize} (h : Cache.Told kind hasher hash size t answer) : Offline t := by
  cases h <;> simp [Offline, Action.Fetches]

theorem offline_of_found {kind : EntryKind} {hasher : Hasher} {hash : String} {size : Option Nat}
    {result : Except CacheError (Option Bytes)} (h : Cache.Found kind hasher hash size t result) :
    Offline t := by
  cases h <;> simp [Offline, Action.Fetches]

theorem offline_of_stored {kind : EntryKind} {hasher : Hasher} {hash : String} {size : Nat}
    {body : Reader} {result : Except CacheError Unit}
    (h : Cache.Stored kind hasher hash size body t result) : Offline t := by
  cases h <;> simp [Offline, Action.Fetches]

open Resolution (Does)

theorem offline_of_lookup {e : Expected} {result : Attempt Nat} (h : Does (lookup e) t result) :
    Offline t := by
  obtain ⟨t₁, t₂, told, rfl, hask, hthen⟩ := (Resolution.does_bind _ _ _).1 h
  clear h
  refine (offline_of_told (Cache.contains_leads ((Resolution.does_ask _ _).1 hask))).append ?_
  rcases told with _ | (size | _)
  · exact hthen.1 ▸ offline_nil
  · exact hthen.1 ▸ offline_nil
  · obtain ⟨t₃, t₄, given, rfl, hget, hend⟩ := (Resolution.does_bind _ _ _).1 hthen
    clear hthen
    obtain ⟨found, hfound, -⟩ := Cache.get_leads ((Resolution.does_ask _ _).1 hget)
    refine (offline_of_found hfound).append ?_
    rcases given with cause | (_ | ⟨reader, size | _⟩)
    · exact hend.1 ▸ offline_nil
    · exact hend.1 ▸ offline_nil
    · exact hend.1 ▸ offline_nil
    · exact hend.1 ▸ offline_nil

theorem offline_of_reportLookup {hash : String} {reason : SkipReason}
    (h : Does (reportLookup hash reason) t ()) : Offline t := by
  cases reason with
  | miss => exact h.1 ▸ offline_nil
  | _ =>
    obtain ⟨_, _, rfl, rfl, -⟩ := h
    exact offline_log _

theorem offline_of_tryQualifiers {qualifiers : List Qualifier} {expected : Option Expected}
    {result : FetchBlobResponse ⊕ Option Expected}
    (h : Does (r.tryQualifiers expected qualifiers) t result) : Offline t := by
  induction qualifiers generalizing expected t with
  | nil => exact h.1 ▸ offline_nil
  | cons q rest ih =>
    unfold tryQualifiers at h
    split at h
    next => exact ih h
    next =>
      split at h
      next reason _ =>
        obtain ⟨_, rfl, hthen⟩ := (Resolution.does_log _ _ _).1 h
        exact (offline_log _).append (ih hthen)
      next e _ =>
        obtain ⟨t₁, t₂, found, rfl, hlookup, hthen⟩ := (Resolution.does_bind _ _ _).1 h
        clear h
        refine (offline_of_lookup hlookup).append ?_
        cases found with
        | ok size =>
          obtain ⟨_, rfl, rfl, -⟩ := (Resolution.does_log _ _ _).1 hthen
          exact offline_log _
        | error reason =>
          obtain ⟨t₃, t₄, _, rfl, hreport, hrest⟩ := (Resolution.does_bind _ _ _).1 hthen
          exact (offline_of_reportLookup hreport).append (ih hrest)

theorem offline_of_requestHasher {function : DigestFunction} {requested : Option Hasher}
    (h : Does (r.requestHasher function) t requested) : Offline t := by
  unfold requestHasher at h
  split at h
  next => exact h.1 ▸ offline_nil
  next =>
    obtain ⟨_, rfl, rfl, -⟩ := (Resolution.does_log _ _ _).1 h
    exact offline_log _

theorem offline_of_fetchBlob {request? : Option FetchRequest} {response : FetchBlobResponse}
    (hok : response.status = .ok) (huri : response.uri = none)
    (hdoes : Does (r.fetchBlob request?) t (.ok response)) : Offline t := by
  cases request? with
  | none => exact hdoes.1 ▸ offline_nil
  | some request =>
    unfold fetchBlob at hdoes
    dsimp only at hdoes
    split at hdoes
    next => exact hdoes.1 ▸ offline_nil
    next =>
      obtain ⟨t₁, t₂, requested, rfl, hrequested, hthen⟩ := (Resolution.does_bind _ _ _).1 hdoes
      clear hdoes
      refine (offline_of_requestHasher hrequested).append ?_
      obtain ⟨t₃, t₄, result, rfl, hqualified, hrest⟩ := (Resolution.does_bind _ _ _).1 hthen
      clear hthen
      refine (offline_of_tryQualifiers hqualified).append ?_
      cases result with
      | inl found => exact hrest.1 ▸ offline_nil
      | inr last =>
        -- A place that resolves the request is named in the response.
        obtain ⟨t₅, t₆, found, rfl, huris, -, hfound⟩ := (Resolution.does_bind _ _ _).1 hrest
        obtain rfl := Except.ok.inj hfound
        obtain ⟨uri, -, _, _, d, -, -, -, hresponse, -⟩ := tryUris_does hok huris
        rw [hresponse] at huri
        exact nomatch huri

/-! ## The first success -/

/-- A request is resolved by the first of its candidates that works. -/
structure FirstSuccess (r : Resolver) (out : Surroundings π ν) (request? : Option FetchRequest)
    (w : World π ν) : Prop where
  /-- What it is answered and what becomes of the world, but for the log, are as specified. -/
  specified : (r.fetchBlobOperation request?).outcome out w = r.specified out request? w.silent
  /-- It fails just if there is none. -/
  fails : (∃ cause, ((r.fetchBlobOperation request?).run out w).1 = .error cause) ↔ request? = none
  /-- Nothing is done for one with a qualifier that is not there. -/
  refused : ∀ request, request? = some request → none ∈ request.qualifiers →
    ((r.fetchBlobOperation request?).run out w).1 =
        .ok (.invalidArgument "unexpected nil qualifier in FetchBlobRequest") ∧
      (r.fetchBlobOperation request?).history out w = []
  /-- Nothing is fetched for one that a checksum resolves. -/
  offline : ∀ response, ((r.fetchBlobOperation request?).run out w).1 = .ok response →
    response.status = .ok → response.uri = none →
      Offline ((r.fetchBlobOperation request?).history out w)
  /-- A checksum works just if the store states the size of its blob. -/
  sized : ∀ e (w' : World π ν) size, (knownSize out e w').1 = some size ↔ Sized out e w' size
  /-- A place works just if it is downloaded. -/
  placed : ∀ target uri (w' : World π ν) d,
    (r.retrieve out target uri w').1 = some d ↔ r.Placed out uri w' target d

theorem fails_iff {request? : Option FetchRequest} {w : World π ν} :
    (∃ cause, (r.specified out request? w).1 = .error cause) ↔ request? = none := by
  cases request? with
  | none => exact ⟨fun _ => rfl, fun _ => ⟨_, rfl⟩⟩
  | some request =>
    refine ⟨fun ⟨cause, h⟩ => ?_, nofun⟩
    unfold specified at h
    dsimp only at h
    split at h
    · exact nomatch h
    · split at h
      · exact nomatch h
      · split at h
        · exact nomatch h
        · exact nomatch h

/-- Requests are resolved as specified, whatever the registry, the store, the proxy, the network
and the request are. -/
theorem first_success (r : Resolver) (out : Surroundings π ν) (request? : Option FetchRequest)
    (w : World π ν) : r.FirstSuccess out request? w where
  specified := outcome_fetchBlob request? w
  fails := by
    have hanswer : ((r.fetchBlobOperation request?).run out w).1 =
        (r.specified out request? w.silent).1 :=
      (congrArg Prod.fst (outcome_fetchBlob request? w) :)
    rw [hanswer]
    exact fails_iff
  refused := by
    rintro request rfl hnil
    have hdone : r.fetchBlob (some request) =
        pure (.ok (.invalidArgument "unexpected nil qualifier in FetchBlobRequest")) :=
      if_pos (any_isNone_iff.2 hnil)
    unfold fetchBlobOperation
    rw [hdone]
    exact ⟨rfl, rfl⟩
  offline _ hrun hok huri := offline_of_fetchBlob hok huri (does_history hrun)
  sized _ _ _ := knownSize_iff
  placed _ _ _ _ := retrieve_iff

end Resolver

end AssetCache
