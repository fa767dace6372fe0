import AssetCache.Proofs.Asset.Footprint

/-!
# Streamed and buffered downloads

A download that has to match a digest is streamed into the store if its length is declared, and read
into memory first if it is not.  The checks of the two ways differ, and their order does; but a body
that is as long as it is declared to be passes the ones just if it passes the others, and is stored
alike.  So it does not matter to a request which of the answers to its fetches declare a length.

Results:
1. `Operation.run_alike`: what is done without the network does not depend on it.
2. `retrieve_eq_whole`: a place is retrieved as if its body had been read into memory.
3. `streamed_as_buffered`: over two networks that serve alike, a request is resolved alike.
-/

namespace AssetCache

variable {π ν ν₁ ν₂ α : Type} {hasher : Hasher} {hash : String} {body : Reader} {blob : Bytes}

/-! ## Worlds with different networks -/

/-- Two worlds with the same store and proxy, whose networks are in states that correspond. -/
structure World.Alike (R : ν₁ → ν₂ → Prop) (w₁ : World π ν₁) (w₂ : World π ν₂) : Prop where
  store : w₁.store = w₂.store
  proxy : w₁.proxy = w₂.proxy
  network : R w₁.network w₂.network

/-- Two outcomes are alike if the results are the same and the worlds are alike. -/
def OutcomesAlike (R : ν₁ → ν₂ → Prop) (x : α × World π ν₁) (y : α × World π ν₂) : Prop :=
  x.1 = y.1 ∧ x.2.Alike R y.2

theorem OutcomesAlike.exists_eq {R : ν₁ → ν₂ → Prop} {x : α × World π ν₁} {y : α × World π ν₂}
    (h : OutcomesAlike R x y) : ∃ a s₁ s₂, x = (a, s₁) ∧ y = (a, s₂) ∧ s₁.Alike R s₂ :=
  ⟨x.1, x.2, y.2, rfl, h.1 ▸ rfl, h.2⟩

section

variable {R : ν₁ → ν₂ → Prop} {w₁ : World π ν₁} {w₂ : World π ν₂} {p : Proxy π} {n₁ : Network ν₁}
  {n₂ : Network ν₂}

theorem Action.perform_alike {a : Action} (hfetch : ¬ a.Fetches) (h : w₁.Alike R w₂) :
    OutcomesAlike R (a.perform ⟨p, n₁⟩ w₁) (a.perform ⟨p, n₂⟩ w₂) := by
  obtain ⟨store, proxy, network₁, log₁⟩ := w₁
  obtain ⟨_, _, network₂, log₂⟩ := w₂
  obtain ⟨rfl, rfl, hnetwork⟩ := h
  cases a with
  | fetch => exact absurd trivial hfetch
  | finish path upload =>
    cases upload with
    | none => exact ⟨rfl, rfl, rfl, hnetwork⟩
    | some u => exact ⟨rfl, rfl, rfl, hnetwork⟩
  | _ => exact ⟨rfl, rfl, rfl, hnetwork⟩

/-- What fetches nothing in the one world runs in the other as it does there. -/
theorem Operation.run_alike {op : Operation α} (h : w₁.Alike R w₂)
    (hoffline : Resolver.Offline (op.history ⟨p, n₁⟩ w₁)) :
    OutcomesAlike R (op.run ⟨p, n₁⟩ w₁) (op.run ⟨p, n₂⟩ w₂) := by
  induction op generalizing w₁ w₂ with
  | done a => exact ⟨rfl, h⟩
  | step a next ih =>
    have hfirst : ¬ a.Fetches := hoffline _ List.mem_cons_self
    have hrest : Resolver.Offline (Operation.history ⟨p, n₁⟩ (next (a.perform ⟨p, n₁⟩ w₁).1)
      (a.perform ⟨p, n₁⟩ w₁).2) := fun x hmem => hoffline x (List.mem_cons_of_mem _ hmem)
    obtain ⟨hanswer, halike⟩ : OutcomesAlike R (a.perform ⟨p, n₁⟩ w₁) (a.perform ⟨p, n₂⟩ w₂) :=
      Action.perform_alike hfirst h
    show OutcomesAlike R (Operation.run _ (next _) _)
      (Operation.run _ (next (a.perform ⟨p, n₂⟩ w₂).1) _)
    rw [← hanswer]
    exact ih _ halike hrest

theorem Request.offline_implement {c : Request.Call} {answer : c.Answer}
    {t : List Action.interface.Exchange} (hfetch : ∀ address, c ≠ .fetch address)
    (h : (Request.implement c).Leads t answer) : Resolver.Offline t := by
  cases c with
  | contains => exact Resolver.offline_of_told (Cache.contains_leads h)
  | get =>
    obtain ⟨result, hfound, -⟩ := Cache.get_leads h
    exact Resolver.offline_of_found hfound
  | put => exact Resolver.offline_of_stored (Cache.put_leads.1 h)
  | fetch address => exact absurd rfl (hfetch address)
  | log event =>
    obtain ⟨_, _, rfl, rfl, -⟩ := h
    exact Resolver.offline_log event

/-- A call that is not a fetch is answered alike. -/
theorem World.ask_alike {c : Request.Call} (hfetch : ∀ address, c ≠ .fetch address)
    (h : w₁.Alike R w₂) : OutcomesAlike R (w₁.ask ⟨p, n₁⟩ c) (w₂.ask ⟨p, n₂⟩ c) := by
  obtain ⟨hanswer, halike⟩ : OutcomesAlike R ((Request.implement c).run ⟨p, n₁⟩ w₁)
      ((Request.implement c).run ⟨p, n₂⟩ w₂) :=
    Operation.run_alike h (Request.offline_implement hfetch (Operation.leads_history _ _ w₁))
  exact ⟨hanswer, halike.store, halike.proxy, halike.network⟩

end

namespace Resolver

/-! ## A place, read into memory -/

/-- A body that is served as it should be: if a length is declared, it is that of what is served; it
is not too large to be read into memory, and has, as all that can be held there, fewer octets than
the largest size. -/
structure Fair (cap : Option Nat) (fetched : FetchedBody) : Prop where
  declared : ∀ n, fetched.contentLength = some n → n = fetched.body.bytes.length
  within : ∀ limit, cap = some limit → fetched.body.bytes.length ≤ limit
  short : fetched.body.Short

/-- Put what a download hands over into the store. -/
def handOver (out : Surroundings π ν) (hasher : Hasher) :
    Attempt (String × Nat × Reader) → World π ν → Option (DigestFunction × BlobDigest) × World π ν
  | .error _, w => (none, w)
  | .ok (hash, size, body), w =>
    let put := w.ask out (.put .cas hasher hash size body)
    (if accepted put.1 then some (hasher.function, .ofSize hash size) else none, put.2)

/-- What a body that is read into memory hands over, if it is as expected. -/
def readWhole (hasher : Hasher) (expectedHash : Option String) (body : Reader) :
    Attempt (String × Nat × Reader) :=
  match body.readAll with
  | .error reason => .error (.read reason)
  | .ok blob =>
    match expectedHash.filter (· ≠ hasher.hash blob) with
    | some expected => .error (.hashMismatch expected (hasher.hash blob))
    | none => .ok (hasher.hash blob, blob.length, .ofBytes blob)

/-- Retrieve a place, reading its body into memory whether or not a length is declared. -/
def retrieveWhole (out : Surroundings π ν) (target : Option (Hasher × Option String))
    (uri : String) (w : World π ν) : Option (DigestFunction × BlobDigest) × World π ν :=
  match target, Url.parse uri with
  | some (hasher, expectedHash), .ok (.web address) =>
    let fetched := w.ask out (.fetch address)
    match fetched.1 with
    | .error _ => (none, fetched.2)
    | .ok answer =>
      if answer.isSuccess then
        handOver out hasher (readWhole hasher expectedHash answer.body) fetched.2
      else (none, fetched.2)
  | _, _ => (none, w)

variable {r : Resolver} {out : Surroundings π ν} {w : World π ν} {cap : Option Nat}
  {fetched : FetchedBody} {expectedHash : Option String}

/-- A blob that a store does not have, and that nobody is storing there. -/
structure Wanted (s : Store) (hasher : Hasher) (hash : String) : Prop where
  nonempty : hasher.isEmptyHash hash = false
  absent : s.entries.find? (Entry.blobPath .cas hasher hash) = none
  unmarked : Entry.blobPath .cas hasher hash ∉ s.inFlight

/-- What a put does of a blob that is wanted: it cannot end before it reads the body, unless the
digest is refused. -/
inductive PutWanted (hasher : Hasher) (hash : String) (size : Nat) (body : Reader) :
    List Action.interface.Exchange → Except CacheError Unit → Prop
  | invalid (cause : CacheError) (hvalidate : Cache.validate .cas hasher hash size = .error cause) :
    PutWanted hasher hash size body [] (.error cause)
  | rejected (cause : CacheError) (hvalidate : Cache.validate .cas hasher hash size = .ok ())
    (hverify : Cache.verify .cas hasher hash (some size) body = .error cause) :
    PutWanted hasher hash size body
      [⟨.begin (Entry.blobPath .cas hasher hash) true, .begun⟩,
        ⟨.finish (Entry.blobPath .cas hasher hash) none, ()⟩]
      (.error cause)
  | stored (blob : Bytes) (hvalidate : Cache.validate .cas hasher hash size = .ok ())
    (hverify : Cache.verify .cas hasher hash (some size) body = .ok blob) :
    PutWanted hasher hash size body
      [⟨.begin (Entry.blobPath .cas hasher hash) true, .begun⟩,
        ⟨.finish (Entry.blobPath .cas hasher hash) (some ⟨.cas, hash, blob⟩), ()⟩]
      (.ok ())

theorem putWanted_of_stored {t : List Action.interface.Exchange} {size : Nat}
    {answer : Except CacheError Unit} (hwanted : Wanted w.store hasher hash)
    (hallows : w.Allows out t) (h : Cache.Stored .cas hasher hash size body t answer) :
    PutWanted hasher hash size body t answer := by
  cases h with
  | invalid cause hvalidate => exact .invalid cause hvalidate
  | empty _ hempty =>
    rw [isEmptyBlob_cas] at hempty
    exact nomatch hwanted.nonempty.symm.trans hempty
  | present =>
    obtain ⟨blob, hfind⟩ := Store.exists_of_present (s := w.store) hallows.1
    exact nomatch hwanted.absent.symm.trans hfind
  | busy => exact absurd (Store.mem_inFlight_of_busy (s := w.store) hallows.1) hwanted.unmarked
  | rejected cause hvalidate _ hverify => exact .rejected cause hvalidate hverify
  | stored blob hvalidate _ hverify => exact .stored blob hvalidate hverify

/-- A body that is not verified is not taken, and leaves the world as it was. -/
theorem handOver_rejected {size : Nat} {e : CacheError} (hwanted : Wanted w.store hasher hash)
    (hverify : Cache.verify .cas hasher hash (some size) body = .error e) :
    handOver out hasher (.ok (hash, size, body)) w = (none, w.silent) := by
  obtain ⟨t, hallows, hleads, hafter⟩ := w.ask_history out (.put .cas hasher hash size body)
  have hput := putWanted_of_stored hwanted hallows (Cache.put_leads.1 hleads)
  have hrejected (cause : CacheError)
      (hanswer : (w.ask out (.put .cas hasher hash size body)).1 = .error cause)
      (hcause : cause.isBenign = false) (hstore : (w.after out t).silent = w.silent) :
      handOver out hasher (.ok (hash, size, body)) w = (none, w.silent) := by
    unfold handOver
    dsimp only
    rw [hanswer, hafter, hstore, ← isBenign_iff, hcause]
    rfl
  generalize (w.ask out (.put .cas hasher hash size body)).1 = answer at hput hrejected
  cases hput with
  | invalid cause hvalidate => exact hrejected cause rfl (Cache.isBenign_of_validate hvalidate) rfl
  | rejected cause _ hfailed =>
    have hstore := store_after_rejected hallows
    exact hrejected cause rfl (Cache.isBenign_of_verify hfailed)
      (congrArg (fun store => { w.silent with store := store }) hstore)
  | stored blob _ hstored => exact nomatch hverify.symm.trans hstored

/-- The streamed way: the store verifies the body that it is handed, and finds in it what would have
been found in memory. -/
theorem handOver_streamed (hfair : Fair cap fetched) (hwanted : Wanted w.store hasher hash) :
    handOver out hasher (.ok (hash, fetched.body.bytes.length, fetched.body)) w.silent =
      handOver out hasher (readWhole hasher (some hash) fetched.body) w.silent := by
  let blob := fetched.body.bytes
  have hverify : Cache.verify .cas hasher hash (some blob.length) fetched.body = _ :=
    Cache.verify_of_short hfair.short
  unfold readWhole
  cases hread : fetched.body.readAll with
  | error reason =>
    rw [hread] at hverify
    exact handOver_rejected hwanted hverify
  | ok found =>
    obtain rfl : blob = found := Reader.bytes_of_readAll hread
    rw [hread] at hverify
    dsimp only at hverify ⊢
    by_cases hhash : hasher.hash blob = hash
    · -- The same is verified of both bodies, so that the two puts are one.
      have hsame : Cache.verify .cas hasher hash (some blob.length) (.ofBytes blob) = _ :=
        Cache.verify_ofBytes (fun n hn => (Option.some.inj hn).symm) (Nat.le_of_lt hfair.short)
      have hput := Cache.put_congr (hverify.trans hsame.symm)
      have hask : w.silent.ask out (.put .cas hasher hash blob.length fetched.body) =
          w.silent.ask out (.put .cas hasher hash blob.length (.ofBytes blob)) :=
        congrArg (Operation.outcome out · w.silent) hput
      rw [Option.filter_some_neg (by simp [hhash])]
      unfold handOver
      dsimp only
      rw [hask, hhash]
    · rw [if_neg hhash] at hverify
      rw [Option.filter_some_pos (by simpa using Ne.symm hhash)]
      exact handOver_rejected hwanted hverify

theorem bufferBody_iff_readAll (hfair : Fair cap fetched) :
    bufferBody cap fetched.contentLength fetched.body = .ok blob ↔
      fetched.body.readAll = .ok blob := by
  have hdeclared : fetched.body.readAll = .ok blob →
      ∀ n, fetched.contentLength = some n → n = blob.length := by
    intro hread n hn
    rw [hfair.declared n hn, Reader.bytes_of_readAll hread]
  rw [bufferBody_iff]
  unfold Buffered
  cases cap with
  | none => exact ⟨And.left, fun h => ⟨h, hdeclared h⟩⟩
  | some limit =>
    dsimp only
    rw [Reader.read_oneMore hfair.short (hfair.within limit rfl)]
    refine ⟨fun h => h.1.1, fun h => ⟨⟨h, ?_⟩, hdeclared h⟩⟩
    exact Reader.bytes_of_readAll h ▸ hfair.within limit rfl

/-- The buffered way: a body that is served as it should be passes the checks of its declared length
and of the cap. -/
theorem handOver_buffered (hfair : Fair r.config.maxBufferedBytes fetched) :
    handOver out hasher (r.bufferVerified hasher expectedHash fetched) w =
      handOver out hasher (readWhole hasher expectedHash fetched.body) w := by
  unfold bufferVerified readWhole
  cases hread : fetched.body.readAll with
  | ok blob =>
    rewrite [(bufferBody_iff_readAll hfair).2 hread]
    rfl
  | error reason =>
    cases hbuffer : bufferBody r.config.maxBufferedBytes fetched.contentLength fetched.body with
    | error cause => rfl
    | ok blob => exact nomatch hread.symm.trans ((bufferBody_iff_readAll hfair).1 hbuffer)

theorem handOver_download (hfair : Fair r.config.maxBufferedBytes fetched)
    (hwanted : ∀ hash, expectedHash = some hash → Wanted w.store hasher hash) :
    handOver out hasher (r.download hasher expectedHash fetched) w.silent =
      handOver out hasher (readWhole hasher expectedHash fetched.body) w.silent := by
  unfold download
  split
  next hash size hdeclared =>
    obtain rfl := hfair.declared size hdeclared
    exact handOver_streamed hfair (hwanted hash rfl)
  next => exact handOver_buffered hfair

/-- Where the blob that is looked for is not there and nobody is storing it, a place is retrieved as
if its body had been read into memory. -/
theorem retrieve_eq_whole {target : Option (Hasher × Option String)} {uri : String}
    (hwanted : ∀ hasher hash, target = some (hasher, some hash) → Wanted w.store hasher hash)
    (hfair : ∀ address fetched, (w.ask out (.fetch address)).1 = .ok fetched →
      Fair r.config.maxBufferedBytes fetched) :
    r.retrieve out target uri w = retrieveWhole out target uri w := by
  rcases target with _ | ⟨hasher, expectedHash⟩
  · rfl
  unfold retrieve retrieveWhole
  cases Url.parse uri with
  | error e => rfl
  | ok address =>
    cases address with
    | other scheme => rfl
    | web address =>
      dsimp only
      cases hfetch : (w.ask out (.fetch address)).1 with
      | error e => rfl
      | ok fetched =>
        have hdownload : handOver out hasher (r.download hasher expectedHash fetched)
            (w.ask out (.fetch address)).2.silent = _ :=
          handOver_download (hfair address fetched hfetch)
            fun hash hexpected => hwanted hasher hash (hexpected ▸ rfl)
        dsimp only
        cases fetched.isSuccess with
        | false => rfl
        | true =>
          refine Eq.trans ?_ hdownload
          cases r.download hasher expectedHash fetched with
          | error reason => rfl
          | ok handed => rfl

/-! ## Networks that serve alike -/

/-- Two fetches fail, or are answered with the same status and the same body, whether or not its
length is declared. -/
inductive ServedAlike (cap : Option Nat) :
    Except FetchError FetchedBody → Except FetchError FetchedBody → Prop
  | failed (cause₁ cause₂ : FetchError) : ServedAlike cap (.error cause₁) (.error cause₂)
  | served (fetched₁ fetched₂ : FetchedBody) (hstatus : fetched₁.status = fetched₂.status)
    (hbytes : fetched₁.body.bytes = fetched₂.body.bytes)
    (hfailure : fetched₁.body.failure = fetched₂.body.failure)
    (hfair₁ : Fair cap fetched₁) (hfair₂ : Fair cap fetched₂) :
    ServedAlike cap (.ok fetched₁) (.ok fetched₂)

/-- From states that correspond, two networks serve alike, address by address, and come to states
that correspond again. -/
def ServeAlike (cap : Option Nat) (n₁ : Network ν₁) (n₂ : Network ν₂) (R : ν₁ → ν₂ → Prop) : Prop :=
  ∀ address s₁ s₂, R s₁ s₂ →
    ServedAlike cap (n₁.get address s₁).1 (n₂.get address s₂).1 ∧
      R (n₁.get address s₁).2 (n₂.get address s₂).2

theorem ServedAlike.fair_left {answer : Except FetchError FetchedBody}
    (h : ServedAlike cap (.ok fetched) answer) : Fair cap fetched := by
  cases h with
  | served _ _ _ _ _ hfair => exact hfair

theorem ServedAlike.fair_right {answer : Except FetchError FetchedBody}
    (h : ServedAlike cap answer (.ok fetched)) : Fair cap fetched := by
  cases h with
  | served _ _ _ _ _ _ hfair => exact hfair

section

variable {R : ν₁ → ν₂ → Prop} {w₁ : World π ν₁} {w₂ : World π ν₂} {p : Proxy π} {n₁ : Network ν₁}
  {n₂ : Network ν₂}

theorem knownSize_alike (e : Expected) (h : w₁.Alike R w₂) :
    OutcomesAlike R (knownSize ⟨p, n₁⟩ e w₁) (knownSize ⟨p, n₂⟩ e w₂) := by
  have htold : OutcomesAlike R (w₁.ask ⟨p, n₁⟩ (.contains .cas e.hasher e.hash none))
      (w₂.ask ⟨p, n₂⟩ (.contains .cas e.hasher e.hash none)) := World.ask_alike nofun h
  unfold knownSize
  obtain ⟨told, s₁, s₂, hfirst, hsecond, halike⟩ := htold.exists_eq
  rw [hfirst, hsecond]
  rcases told with _ | (size | _)
  · exact ⟨rfl, halike⟩
  · exact ⟨rfl, halike⟩
  · have hgiven : OutcomesAlike R (s₁.ask ⟨p, n₁⟩ (.get .cas e.hasher e.hash none 0))
        (s₂.ask ⟨p, n₂⟩ (.get .cas e.hasher e.hash none 0)) := World.ask_alike nofun halike
    obtain ⟨given, s₁', s₂', hfirst', hsecond', halike'⟩ := hgiven.exists_eq
    dsimp only
    rw [hfirst', hsecond']
    dsimp only
    split
    next => exact ⟨rfl, halike'⟩
    next => exact ⟨rfl, halike'⟩

theorem handOver_alike (handed : Attempt (String × Nat × Reader)) (h : w₁.Alike R w₂) :
    OutcomesAlike R (handOver ⟨p, n₁⟩ hasher handed w₁) (handOver ⟨p, n₂⟩ hasher handed w₂) := by
  cases handed with
  | error reason => exact ⟨rfl, h⟩
  | ok handed =>
    obtain ⟨hash, size, body⟩ := handed
    obtain ⟨hanswer, halike⟩ : OutcomesAlike R (w₁.ask ⟨p, n₁⟩ (.put .cas hasher hash size body))
      (w₂.ask ⟨p, n₂⟩ (.put .cas hasher hash size body)) := World.ask_alike nofun h
    unfold handOver
    dsimp only
    rw [hanswer]
    exact ⟨rfl, halike⟩

theorem retrieveWhole_alike (hserve : ServeAlike cap n₁ n₂ R)
    (target : Option (Hasher × Option String)) (uri : String) (h : w₁.Alike R w₂) :
    OutcomesAlike R (retrieveWhole ⟨p, n₁⟩ target uri w₁)
      (retrieveWhole ⟨p, n₂⟩ target uri w₂) := by
  rcases target with _ | ⟨hasher, expectedHash⟩
  · exact ⟨rfl, h⟩
  unfold retrieveWhole
  cases Url.parse uri with
  | error e => exact ⟨rfl, h⟩
  | ok address =>
    cases address with
    | other scheme => exact ⟨rfl, h⟩
    | web address =>
      have hserved : ServedAlike cap (w₁.ask ⟨p, n₁⟩ (.fetch address)).1
          (w₂.ask ⟨p, n₂⟩ (.fetch address)).1 := (hserve address _ _ h.network).1
      have halike : (w₁.ask ⟨p, n₁⟩ (.fetch address)).2.Alike R
          (w₂.ask ⟨p, n₂⟩ (.fetch address)).2 :=
        ⟨h.store, h.proxy, (hserve address _ _ h.network).2⟩
      dsimp only
      generalize (w₁.ask ⟨p, n₁⟩ (.fetch address)).1 = answer₁ at hserved ⊢
      generalize (w₂.ask ⟨p, n₂⟩ (.fetch address)).1 = answer₂ at hserved ⊢
      cases hserved with
      | failed => exact ⟨rfl, halike⟩
      | served fetched₁ fetched₂ hstatus hbytes hfailure =>
        have hsuccess : fetched₁.isSuccess = fetched₂.isSuccess := by
          rw [FetchedBody.isSuccess, hstatus]
          rfl
        have hread : fetched₁.body.readAll = fetched₂.body.readAll := by
          rw [Reader.readAll, hbytes, hfailure]
          rfl
        dsimp only
        rw [hsuccess, readWhole, hread]
        cases fetched₂.isSuccess with
        | false => exact ⟨rfl, halike⟩
        | true => exact handOver_alike _ halike

theorem retrieve_alike (hserve : ServeAlike r.config.maxBufferedBytes n₁ n₂ R)
    {target : Option (Hasher × Option String)} (uri : String) (h : w₁.Alike R w₂)
    (hwanted : ∀ hasher hash, target = some (hasher, some hash) →
      Wanted w₁.store hasher hash) :
    OutcomesAlike R (r.retrieve ⟨p, n₁⟩ target uri w₁) (r.retrieve ⟨p, n₂⟩ target uri w₂) := by
  have hserved (address : Url.WebAddress) :
      ServedAlike r.config.maxBufferedBytes (w₁.ask ⟨p, n₁⟩ (.fetch address)).1
        (w₂.ask ⟨p, n₂⟩ (.fetch address)).1 := (hserve address _ _ h.network).1
  have hfirst : r.retrieve ⟨p, n₁⟩ target uri w₁ = _ := retrieve_eq_whole hwanted
    fun address fetched hfetch => (hfetch ▸ hserved address).fair_left
  have hsecond : r.retrieve ⟨p, n₂⟩ target uri w₂ = _ := retrieve_eq_whole (h.store ▸ hwanted)
    fun address fetched hfetch => (hfetch ▸ hserved address).fair_right
  rw [hfirst, hsecond]
  exact retrieveWhole_alike hserve target uri h

end

/-! ## Requests -/

/-- A checksum for which no size is known is not that of the empty blob, and its blob is not
there. -/
theorem absent_of_knownSize {e : Expected} (h : (knownSize out e w).1 = none) :
    e.hasher.isEmptyHash e.hash = false ∧
      w.store.entries.find? (Entry.blobPath .cas e.hasher e.hash) = none := by
  obtain ⟨t, hallows, hleads, -⟩ := w.ask_history out (.contains .cas e.hasher e.hash none)
  have htold := Cache.contains_leads hleads
  unfold knownSize at h
  dsimp only at h
  generalize (w.ask out (.contains .cas e.hasher e.hash none)).1 = told at htold h
  cases htold with
  | empty => exact nomatch h
  | stored blob => exact nomatch h
  | asked answer hempty =>
    exact ⟨isEmptyBlob_cas _ _ ▸ hempty, (w.store.answer_lookup _).symm.trans hallows.1⟩

section

variable {R : ν₁ → ν₂ → Prop} {p : Proxy π} {n₁ : Network ν₁} {n₂ : Network ν₂}

/-- The blob that downloads have to match is wanted where all checksums have failed. -/
theorem wanted_of_missed {request : FetchRequest} {w w' : World (π × List Notice) ν₁}
    (hidle : w.store.inFlight = []) (huntouched : Untouched w w')
    (hmissed : ∀ e ∈ r.requestChecksums request,
      ∃ s, Untouched w s ∧ (knownSize ⟨p.noting, n₁⟩ e s).1 = none)
    (htarget : r.requestTarget request = some (hasher, some hash)) :
    Wanted w'.store hasher hash := by
  rcases requestTarget_cases htarget with ⟨e, hlast, rfl, hhash⟩ | ⟨-, -, hnone⟩
  · obtain rfl := Option.some.inj hhash
    obtain ⟨s, hs, hfailed⟩ := hmissed e (List.mem_of_getLast? hlast)
    obtain ⟨hnonempty, habsent⟩ := absent_of_knownSize hfailed
    refine ⟨hnonempty, ?_, ?_⟩
    · rw [huntouched.entries, ← hs.entries]
      exact habsent
    · rw [huntouched.inFlight, hidle]
      exact List.not_mem_nil
  · exact nomatch hnone

/-- Checksums are looked up alike. -/
theorem checksums_alike (checksums : List Expected) {w₁ : World π ν₁} {w₂ : World π ν₂}
    {p : Proxy π} (h : w₁.Alike R w₂) :
    OutcomesAlike R (firstSuccess (knownSize ⟨p, n₁⟩) checksums w₁)
      (firstSuccess (knownSize ⟨p, n₂⟩) checksums w₂) := by
  refine firstSuccess_alike h (fun _ _ halike => halike) fun e _ s₁ s₂ halike => ?_
  obtain ⟨hsize, halike'⟩ : OutcomesAlike R (knownSize ⟨p, n₁⟩ e s₁) (knownSize ⟨p, n₂⟩ e s₂) :=
    knownSize_alike e halike
  exact ⟨hsize, halike', fun _ => halike'⟩

/-- Places are retrieved alike where all checksums have failed: those that fail leave the store as
it was, so that the blob is still wanted at the next. -/
theorem places_alike (hserve : ServeAlike r.config.maxBufferedBytes n₁ n₂ R)
    {request : FetchRequest} {w s₁ : World (π × List Notice) ν₁} {s₂ : World (π × List Notice) ν₂}
    (hidle : w.store.inFlight = []) (huntouched : Untouched w s₁)
    (hmissed : ∀ e ∈ r.requestChecksums request,
      ∃ s, Untouched w s ∧ (knownSize ⟨p.noting, n₁⟩ e s).1 = none) (h : s₁.Alike R s₂) :
    OutcomesAlike R
      (firstSuccess (r.retrieve ⟨p.noting, n₁⟩ (r.requestTarget request)) request.uris s₁)
      (firstSuccess (r.retrieve ⟨p.noting, n₂⟩ (r.requestTarget request)) request.uris s₂) := by
  refine firstSuccess_alike (R := fun s s' => s.Alike R s' ∧ Untouched w s) ⟨h, huntouched⟩
    (fun _ _ hs => hs.1) fun uri _ s s' ⟨hs, hbefore⟩ => ?_
  have hwanted (hasher : Hasher) (hash : String)
      (htarget : r.requestTarget request = some (hasher, some hash)) : Wanted s.store hasher hash :=
    wanted_of_missed hidle hbefore hmissed htarget
  obtain ⟨hresult, halike⟩ := retrieve_alike (p := p.noting) hserve uri hs hwanted
  refine ⟨hresult, halike, fun hnone => ⟨halike, ?_⟩⟩
  exact hbefore.trans ((retrieve_leaves p n₁ _ uri s).1 hnone)

theorem specified_alike (hserve : ServeAlike r.config.maxBufferedBytes n₁ n₂ R)
    (request? : Option FetchRequest) {w₁ : World (π × List Notice) ν₁}
    {w₂ : World (π × List Notice) ν₂} (h : w₁.Alike R w₂) (hidle : w₁.store.inFlight = []) :
    OutcomesAlike R (r.specified ⟨p.noting, n₁⟩ request? w₁)
      (r.specified ⟨p.noting, n₂⟩ request? w₂) := by
  cases request? with
  | none => exact ⟨rfl, h⟩
  | some request =>
    unfold specified
    dsimp only
    split
    next => exact ⟨rfl, h⟩
    next =>
      have hchecksums : OutcomesAlike R
          (firstSuccess (knownSize ⟨p.noting, n₁⟩) (r.requestChecksums request) w₁)
          (firstSuccess (knownSize ⟨p.noting, n₂⟩) (r.requestChecksums request) w₂) :=
        checksums_alike _ h
      obtain ⟨found, s₁, s₂, hfirst, hsecond, halike⟩ := hchecksums.exists_eq
      rw [hfirst, hsecond]
      cases found with
      | some hit => exact ⟨rfl, halike⟩
      | none =>
        obtain ⟨huntouched, hmissed⟩ := firstSuccess_none (P := Untouched w₁) .refl
          (fun e _ s hs hnone => hs.trans ((knownSize_leaves p n₁ e s).2 hnone)) hfirst
        obtain ⟨placed, s₁', s₂', hfirst', hsecond', halike'⟩ :=
          (places_alike hserve hidle huntouched hmissed halike).exists_eq
        dsimp only
        rw [hfirst', hsecond']
        cases placed with
        | some place => exact ⟨rfl, halike'⟩
        | none => exact ⟨rfl, halike'⟩

end

/-- Two runs of a request are alike: in the response, in what is left in the store and in its
counts, and in what the proxy is told and what is fetched, in order. -/
structure RunsAlike (r : Resolver) (p : Proxy π) (n₁ : Network ν₁) (n₂ : Network ν₂)
    (R : ν₁ → ν₂ → Prop) (request? : Option FetchRequest) (w₁ : World π ν₁) (w₂ : World π ν₂) :
    Prop where
  outcomes : OutcomesAlike R ((r.fetchBlobOperation request?).run ⟨p, n₁⟩ w₁)
    ((r.fetchBlobOperation request?).run ⟨p, n₂⟩ w₂)
  told : notices ((r.fetchBlobOperation request?).history ⟨p, n₁⟩ w₁) =
    notices ((r.fetchBlobOperation request?).history ⟨p, n₂⟩ w₂)
  fetched : addresses ((r.fetchBlobOperation request?).history ⟨p, n₁⟩ w₁) =
    addresses ((r.fetchBlobOperation request?).history ⟨p, n₂⟩ w₂)

/-- Where nothing is being written, a request is resolved alike over two networks that serve alike:
it does not matter which of the answers declare the length of what they serve, and so which of the
downloads are streamed. -/
theorem streamed_as_buffered (r : Resolver) (p : Proxy π) {n₁ : Network ν₁} {n₂ : Network ν₂}
    {R : ν₁ → ν₂ → Prop} (hserve : ServeAlike r.config.maxBufferedBytes n₁ n₂ R)
    (request? : Option FetchRequest) {w₁ : World π ν₁} {w₂ : World π ν₂} (h : w₁.Alike R w₂)
    (hidle : w₁.store.inFlight = []) : r.RunsAlike p n₁ n₂ R request? w₁ w₂ := by
  let R' (s₁ : ν₁ × List Url.WebAddress) (s₂ : ν₂ × List Url.WebAddress) : Prop :=
    R s₁.1 s₂.1 ∧ s₁.2 = s₂.2
  have hserve' : ServeAlike r.config.maxBufferedBytes n₁.noting n₂.noting R' := by
    rintro address s₁ s₂ ⟨hs, hasked⟩
    obtain ⟨hserved, hnext⟩ := hserve address s₁.1 s₂.1 hs
    exact ⟨hserved, hnext, congrArg (· ++ [address]) hasked⟩
  have hworlds : (w₁.noted [] []).silent.Alike R' (w₂.noted [] []).silent :=
    ⟨h.store, congrArg (·, []) h.proxy, h.network, rfl⟩
  -- What is told and what is fetched are parts of the worlds in which notes are taken of them.
  have halike := specified_alike (p := p) hserve' request? hworlds hidle
  rw [specified_noted, specified_noted] at halike
  obtain ⟨hanswer, hstore, hproxy, hnetwork, hasked⟩ := halike
  exact ⟨⟨hanswer, hstore, (Prod.mk.inj hproxy).1, hnetwork⟩, (Prod.mk.inj hproxy).2, hasked⟩

/-- One network declares the length of what it serves, and the other does not. -/
theorem streamed_as_buffered_of_hello :
    let body := Reader.ofBytes (Utf8.ofString "hello")
    let n₁ : Network Unit := ⟨fun _ s => (.ok ⟨200, some 5, body⟩, s)⟩
    let n₂ : Network Unit := ⟨fun _ s => (.ok ⟨200, none, body⟩, s)⟩
    let R (_ _ : Unit) : Prop := True
    let w : World Proxy.Recording Unit := ⟨.empty, .empty, (), []⟩
    let r : Resolver := ⟨.standard, { maxBufferedBytes := some 5 }⟩
    let request : FetchRequest :=
      { qualifiers := [some (.checksum "sha256-LPJNul+wow4m6DsqxbninhsWHlwfp0JecwQzYpOLmCQ=")]
        uris := ["http://[::1]/"] }
    (ServeAlike r.config.maxBufferedBytes n₁ n₂ R ∧ w.Alike R w ∧ w.store.inFlight = []) ∧
      ((r.fetchBlobOperation (some request)).run ⟨.recording false, n₁⟩ w).2.proxy.puts.length =
        1 ∧
      r.RunsAlike (.recording false) n₁ n₂ R (some request) w w := by
  intro body n₁ n₂ R w r request
  have hserve : ServeAlike r.config.maxBufferedBytes n₁ n₂ R := by
    have hfair (declared : Option Nat) (h : ∀ n, declared = some n → n = 5) :
        Fair (some 5) ⟨200, declared, body⟩ :=
      ⟨h, fun limit hlimit => Nat.le_of_eq (Option.some.inj hlimit), show 5 < _ by decide⟩
    intro address s₁ s₂ _
    refine ⟨.served _ _ rfl rfl rfl (hfair (some 5) fun n hn => ?_) (hfair none nofun), trivial⟩
    exact (Option.some.inj hn).symm
  have hworlds : w.Alike R w := ⟨rfl, rfl, trivial⟩
  exact ⟨⟨hserve, hworlds, rfl⟩, by decide +kernel,
    streamed_as_buffered r (.recording false) hserve (some request) hworlds rfl⟩

end Resolver

end AssetCache
