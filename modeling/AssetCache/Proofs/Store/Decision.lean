import AssetCache.Proofs.Store.Notes
import AssetCache.Proofs.Store.ReadBack

/-!
# What a put comes to

A put checks its digest first, then whether there is something to store at all, and then the body:
its length, how it ends, and its digest, in this order.  Of a body that is longer than was stated no
more is read than shows that, so that a failure behind it is not met; any other is read to its end.

Results:
1. `verify_eq_iff`: what a body of a stated size comes to, by its octets and by how it ends.
2. `run_put_eq_iff`: what a put comes to, and the world after it, where nobody else is writing.
3. `put_decides_exactly`: this, and that a put that fails is as if it had not been tried.
-/

namespace AssetCache.Cache

variable {π ν : Type} {out : Surroundings π ν} {w : World π ν} {kind : EntryKind}
  {hasher : Hasher} {hash : String} {size : Nat} {body : Reader}

/-! ## Bodies -/

/-- What a body comes to that is to have `size` octets. -/
inductive Judged (kind : EntryKind) (hasher : Hasher) (hash : String) (size : Nat) (body : Reader) :
    Except CacheError Bytes → Prop
  /-- It has more, whatever follows them. -/
  | tooLong (hlong : size < body.bytes.length) :
    Judged kind hasher hash size body (.error (.sizeMismatch hash size (size + 1)))
  /-- It has no more, and fails after them. -/
  | failed (reason : String) (hfits : body.bytes.length ≤ size)
    (hfails : body.failure = some reason) :
    Judged kind hasher hash size body (.error (.io reason))
  /-- It ends before it has as many. -/
  | tooShort (hends : body.failure = none) (hfew : body.bytes.length < size) :
    Judged kind hasher hash size body (.error (.sizeMismatch hash size body.bytes.length))
  /-- It ends with as many, and they have another digest. -/
  | otherDigest (hends : body.failure = none) (hsize : body.bytes.length = size)
    (hcas : kind = .cas) (hother : hasher.hash body.bytes ≠ hash) :
    Judged kind hasher hash size body (.error (.hashMismatch hash (hasher.hash body.bytes)))
  /-- It ends with as many, and they have the digest, where entries go by it. -/
  | whole (hends : body.failure = none) (hsize : body.bytes.length = size)
    (hdigest : kind = .cas → hasher.hash body.bytes = hash) :
    Judged kind hasher hash size body (.ok body.bytes)

theorem verify_of_tooLong (hshort : body.Short) (hlong : size < body.bytes.length) :
    verify kind hasher hash (some size) body = .error (.sizeMismatch hash size (size + 1)) := by
  have hlength : (body.bytes.take (size + 1)).length = size + 1 :=
    List.length_take_of_le hlong
  unfold verify readSized
  dsimp only
  rw [Reader.read_oneMore_of_lt hshort hlong]
  dsimp only
  rw [hlength, if_neg (Nat.succ_ne_self size)]

theorem readSized_of_fits (hshort : body.Short) (hfits : body.bytes.length ≤ size) :
    readSized hash (some size) body =
      match body.failure with
      | some reason => .error (.io reason)
      | none =>
        if body.bytes.length = size then .ok body.bytes
        else .error (.sizeMismatch hash size body.bytes.length) := by
  unfold readSized
  dsimp only
  rw [Reader.read_oneMore hshort hfits, Reader.readAll]
  cases body.failure with
  | some reason => rfl
  | none => rfl

theorem verify_of_failed {reason : String} (hshort : body.Short)
    (hfits : body.bytes.length ≤ size) (hfails : body.failure = some reason) :
    verify kind hasher hash (some size) body = .error (.io reason) := by
  unfold verify
  rw [readSized_of_fits hshort hfits, hfails]

theorem verify_of_tooShort (hshort : body.Short) (hends : body.failure = none)
    (hfew : body.bytes.length < size) :
    verify kind hasher hash (some size) body =
      .error (.sizeMismatch hash size body.bytes.length) := by
  unfold verify
  rw [readSized_of_fits hshort (Nat.le_of_lt hfew), hends]
  dsimp only
  rw [if_neg (Nat.ne_of_lt hfew)]

theorem verify_of_ends (hshort : body.Short) (hends : body.failure = none)
    (hsize : body.bytes.length = size) :
    verify kind hasher hash (some size) body =
      if kind = .cas then
        if hasher.hash body.bytes = hash then .ok body.bytes
        else .error (.hashMismatch hash (hasher.hash body.bytes))
      else .ok body.bytes := by
  unfold verify
  rw [readSized_of_fits hshort (Nat.le_of_eq hsize), hends]
  dsimp only
  rw [if_pos hsize]

/-- What a body comes to is told by its octets and by how it ends. -/
theorem verify_eq_iff (hshort : body.Short) {result : Except CacheError Bytes} :
    verify kind hasher hash (some size) body = result ↔
      Judged kind hasher hash size body result := by
  constructor
  · rintro rfl
    rcases Nat.lt_or_ge size body.bytes.length with hlong | hfits
    · exact verify_of_tooLong hshort hlong ▸ .tooLong hlong
    · cases hend : body.failure with
      | some reason => exact verify_of_failed hshort hfits hend ▸ .failed reason hfits hend
      | none =>
        rcases Nat.lt_or_eq_of_le hfits with hfew | hsize
        · exact verify_of_tooShort hshort hend hfew ▸ .tooShort hend hfew
        · rw [verify_of_ends hshort hend hsize]
          split
          next hcas =>
            split
            next hdigest => exact .whole hend hsize fun _ => hdigest
            next hother => exact .otherDigest hend hsize hcas hother
          next hother => exact .whole hend hsize fun hcas => absurd hcas hother
  · intro h
    cases h with
    | tooLong hlong => exact verify_of_tooLong hshort hlong
    | failed reason hfits hfails => exact verify_of_failed hshort hfits hfails
    | tooShort hends hfew => exact verify_of_tooShort hshort hends hfew
    | otherDigest hends hsize hcas hother =>
      rw [verify_of_ends hshort hends hsize, if_pos hcas, if_neg hother]
    | whole hends hsize hdigest =>
      rw [verify_of_ends hshort hends hsize]
      split
      next hcas => exact if_pos (hdigest hcas)
      next => rfl

/-! ## Puts -/

/-- The store has the blob that a put would bring, by its digest alone. -/
def Needless (s : Store) (kind : EntryKind) (hasher : Hasher) (hash : String) : Prop :=
  kind = .cas ∧ ∃ blob, Held s kind hasher hash blob

/-- The world with an entry more, of which the proxy was told. -/
def withEntry (out : Surroundings π ν) (w : World π ν) (kind : EntryKind) (hasher : Hasher)
    (hash : String) (blob : Bytes) : World π ν :=
  { w with
    store := w.store.insert (Entry.blobPath kind hasher hash) blob
    proxy := out.proxy.put kind hash blob.length blob.length blob w.proxy }

/-- What a put comes to whose path nobody is writing, and the world after it. -/
inductive Decided (out : Surroundings π ν) (w : World π ν) (kind : EntryKind) (hasher : Hasher)
    (hash : String) (size : Nat) (body : Reader) : Except CacheError Unit × World π ν → Prop
  /-- The digest is refused, whatever else may be wrong. -/
  | invalid (e : CacheError) (hvalidate : validate kind hasher hash size = .error e) :
    Decided out w kind hasher hash size body (.error e, w)
  /-- There is nothing to store. -/
  | needless (hvalidate : validate kind hasher hash size = .ok ())
    (hneedless : Needless w.store kind hasher hash) :
    Decided out w kind hasher hash size body (.ok (), w)
  /-- The body is not what it should be. -/
  | rejected (e : CacheError) (hvalidate : validate kind hasher hash size = .ok ())
    (hnew : ¬ Needless w.store kind hasher hash)
    (hjudged : Judged kind hasher hash size body (.error e)) :
    Decided out w kind hasher hash size body (.error e, w)
  /-- The body is stored. -/
  | stored (blob : Bytes) (hvalidate : validate kind hasher hash size = .ok ())
    (hnew : ¬ Needless w.store kind hasher hash)
    (hjudged : Judged kind hasher hash size body (.ok blob)) :
    Decided out w kind hasher hash size body (.ok (), withEntry out w kind hasher hash blob)

theorem not_needless_of_begun (hempty : isEmptyBlob kind hasher hash = false)
    (hbegun : (w.store.begin (Entry.blobPath kind hasher hash) (kind = .cas)).1 = .begun) :
    ¬ Needless w.store kind hasher hash := by
  rintro ⟨hcas, blob, hheld⟩
  cases hheld with
  | empty hnot => exact nomatch hempty.symm.trans hnot
  | entry _ _ hfind =>
    have habsent := Store.absent_of_begun hbegun (decide_eq_true hcas)
    exact nomatch habsent.symm.trans hfind

theorem needless_of_present (hempty : isEmptyBlob kind hasher hash = false)
    (hpresent : (w.store.begin (Entry.blobPath kind hasher hash) (kind = .cas)).1 = .present) :
    Needless w.store kind hasher hash := by
  obtain ⟨blob, hfind⟩ := Store.exists_of_present hpresent
  exact ⟨of_decide_eq_true (Store.onlyIfAbsent_of_present hpresent), blob,
    .entry blob hempty hfind⟩

theorem decided_run (hshort : body.Short)
    (hfree : Entry.blobPath kind hasher hash ∉ w.store.inFlight) :
    Decided out w kind hasher hash size body ((put kind hasher hash size body).run out w) := by
  obtain ⟨t, hallows, hleads, hafter⟩ :=
    Operation.exists_history out (put kind hasher hash size body) w
  generalize (put kind hasher hash size body).run out w = ran at hleads hafter ⊢
  obtain ⟨answer, after⟩ := ran
  obtain rfl : w.after out t = after := hafter
  cases put_leads.1 hleads with
  | invalid e hvalidate => exact .invalid e hvalidate
  | empty hvalidate hempty =>
    exact .needless hvalidate ⟨cas_of_isEmptyBlob hempty, [], .empty hempty⟩
  | present hvalidate hempty =>
    have hpresent : (w.store.begin (Entry.blobPath kind hasher hash) (kind = .cas)).1 = .present :=
      hallows.1
    have hrefused : (w.store.begin (Entry.blobPath kind hasher hash) (kind = .cas)).1 ≠ .begun :=
      hpresent ▸ nofun
    have hsame : w.after out [⟨.begin _ _, .present⟩] = w :=
      congrArg (fun store => { w with store := store }) (Store.begin_of_refused hrefused)
    rw [hsame]
    exact .needless hvalidate (needless_of_present hempty hpresent)
  | busy => exact absurd (Store.mem_inFlight_of_busy hallows.1) hfree
  | rejected e hvalidate hempty hverify =>
    have hsame : w.after out [⟨.begin _ _, .begun⟩, ⟨.finish _ none, ()⟩] = w :=
      congrArg (fun store => { w with store := store }) (store_after_rejected hallows)
    rw [hsame]
    exact .rejected e hvalidate (not_needless_of_begun hempty hallows.1)
      ((verify_eq_iff hshort).1 hverify)
  | stored blob hvalidate hempty hverify =>
    have hstored : w.after out [⟨.begin _ _, .begun⟩, ⟨.finish _ (some ⟨kind, hash, blob⟩), ()⟩] =
        withEntry out w kind hasher hash blob :=
      congrArg (fun store => { withEntry out w kind hasher hash blob with store := store })
        (store_after_stored hallows)
    rw [hstored]
    exact .stored blob hvalidate (not_needless_of_begun hempty hallows.1)
      ((verify_eq_iff hshort).1 hverify)

/-- A put comes to one thing only. -/
theorem Decided.unique {x y : Except CacheError Unit × World π ν} (hshort : body.Short)
    (h : Decided out w kind hasher hash size body x)
    (h' : Decided out w kind hasher hash size body y) : x = y := by
  cases h with
  | invalid e hinvalid =>
    cases h' with
    | invalid e' hinvalid' =>
      obtain rfl := Except.error.inj (hinvalid.symm.trans hinvalid')
      rfl
    | needless hvalidate => exact nomatch hinvalid.symm.trans hvalidate
    | rejected _ hvalidate => exact nomatch hinvalid.symm.trans hvalidate
    | stored _ hvalidate => exact nomatch hinvalid.symm.trans hvalidate
  | needless hvalidate hneedless =>
    cases h' with
    | invalid _ hinvalid => exact nomatch hinvalid.symm.trans hvalidate
    | needless => rfl
    | rejected _ _ hnew => exact absurd hneedless hnew
    | stored _ _ hnew => exact absurd hneedless hnew
  | rejected e hvalidate hnew hjudged =>
    have hverify := (verify_eq_iff hshort).2 hjudged
    cases h' with
    | invalid _ hinvalid => exact nomatch hinvalid.symm.trans hvalidate
    | needless _ hneedless => exact absurd hneedless hnew
    | rejected e' _ _ hjudged' =>
      obtain rfl := Except.error.inj (hverify.symm.trans ((verify_eq_iff hshort).2 hjudged'))
      rfl
    | stored _ _ _ hjudged' =>
      exact nomatch hverify.symm.trans ((verify_eq_iff hshort).2 hjudged')
  | stored blob hvalidate hnew hjudged =>
    have hverify := (verify_eq_iff hshort).2 hjudged
    cases h' with
    | invalid _ hinvalid => exact nomatch hinvalid.symm.trans hvalidate
    | needless _ hneedless => exact absurd hneedless hnew
    | rejected _ _ _ hjudged' =>
      exact nomatch hverify.symm.trans ((verify_eq_iff hshort).2 hjudged')
    | stored blob' _ _ hjudged' =>
      obtain rfl := Except.ok.inj (hverify.symm.trans ((verify_eq_iff hshort).2 hjudged'))
      rfl

theorem run_put_eq_iff (hshort : body.Short)
    (hfree : Entry.blobPath kind hasher hash ∉ w.store.inFlight)
    {x : Except CacheError Unit × World π ν} :
    (put kind hasher hash size body).run out w = x ↔
      Decided out w kind hasher hash size body x := by
  have hrun : Decided out w kind hasher hash size body _ := decided_run hshort hfree
  constructor
  · rintro rfl
    exact hrun
  · exact fun h => hrun.unique hshort h

theorem put_ok_iff (hshort : body.Short)
    (hfree : Entry.blobPath kind hasher hash ∉ w.store.inFlight) :
    ((put kind hasher hash size body).run out w).1 = .ok () ↔
      validate kind hasher hash size = .ok () ∧
        (Needless w.store kind hasher hash ∨
          body.failure = none ∧ body.bytes.length = size ∧
            (kind = .cas → hasher.hash body.bytes = hash)) := by
  constructor
  · intro hok
    have hrun : Decided out w kind hasher hash size body _ := decided_run hshort hfree
    generalize (put kind hasher hash size body).run out w = ran at hok hrun
    cases hrun with
    | invalid => exact nomatch hok
    | needless hvalidate hneedless => exact ⟨hvalidate, .inl hneedless⟩
    | rejected => exact nomatch hok
    | stored blob hvalidate _ hjudged =>
      cases hjudged with
      | whole hends hsize hdigest => exact ⟨hvalidate, .inr ⟨hends, hsize, hdigest⟩⟩
  · rintro ⟨hvalidate, hthere⟩
    by_cases hneedless : Needless w.store kind hasher hash
    · rw [(run_put_eq_iff hshort hfree).2 (.needless hvalidate hneedless)]
    · obtain ⟨hends, hsize, hdigest⟩ := hthere.resolve_left hneedless
      rw [(run_put_eq_iff hshort hfree).2
        (.stored body.bytes hvalidate hneedless (.whole hends hsize hdigest))]

theorem notices_of_error {e : CacheError} {t : List Action.interface.Exchange}
    (h : Stored kind hasher hash size body t (.error e)) : notices t = [] := by
  cases h with
  | invalid => rfl
  | busy => rfl
  | rejected => rfl

/-- A put fails before it has done anything, or undoes what it has done. -/
theorem untouched_of_put_error {e : CacheError} (hshort : body.Short)
    (hfree : Entry.blobPath kind hasher hash ∉ w.store.inFlight)
    (hfails : ((put kind hasher hash size body).run out w).1 = .error e) :
    ((put kind hasher hash size body).run out w).2 = w ∧
      notices ((put kind hasher hash size body).history out w) = [] := by
  have hleads := Operation.leads_history out (put kind hasher hash size body) w
  rw [hfails] at hleads
  refine ⟨?_, notices_of_error (put_leads.1 hleads)⟩
  have hrun : Decided out w kind hasher hash size body _ := decided_run hshort hfree
  generalize (put kind hasher hash size body).run out w = ran at hfails hrun
  cases hrun with
  | invalid => rfl
  | needless => exact nomatch hfails
  | rejected => rfl
  | stored => exact nomatch hfails

/-- How a put decides. -/
structure Decides (out : Surroundings π ν) (w : World π ν) (kind : EntryKind) (hasher : Hasher)
    (hash : String) (size : Nat) (body : Reader) : Prop where
  /-- What it answers, and the world after it. -/
  outcome : ∀ x, (put kind hasher hash size body).run out w = x ↔
    Decided out w kind hasher hash size body x
  /-- It succeeds just if its digest is not refused, and there is nothing to store or the body ends
  with as many octets as were stated, and they have the digest, where entries go by it. -/
  succeeds : ((put kind hasher hash size body).run out w).1 = .ok () ↔
    validate kind hasher hash size = .ok () ∧
      (Needless w.store kind hasher hash ∨
        body.failure = none ∧ body.bytes.length = size ∧
          (kind = .cas → hasher.hash body.bytes = hash))
  /-- If it fails, all is as it was, and the proxy was told nothing. -/
  atomic : ∀ e, ((put kind hasher hash size body).run out w).1 = .error e →
    ((put kind hasher hash size body).run out w).2 = w ∧
      notices ((put kind hasher hash size body).history out w) = []

/-- A put whose path nobody else is writing decides by its digest, by what the store has and by its
body, in this order, and does nothing if it fails. -/
theorem put_decides_exactly (out : Surroundings π ν) (w : World π ν) (kind : EntryKind)
    (hasher : Hasher) (hash : String) (size : Nat) (body : Reader) (hshort : body.Short)
    (hfree : Entry.blobPath kind hasher hash ∉ w.store.inFlight) :
    Decides out w kind hasher hash size body where
  outcome _ := run_put_eq_iff hshort hfree
  succeeds := put_ok_iff hshort hfree
  atomic _ := untouched_of_put_error hshort hfree

/-- While another entry is being written, a body of six octets is put as one of five.  That it fails
after the sixth is not met. -/
theorem put_decides_exactly_of_long_body :
    let out : Surroundings Proxy.Recording Unit :=
      ⟨.recording false, ⟨fun _ s => (.error (.client "no network"), s)⟩⟩
    let hasher : Hasher := .ofAlgorithm .sha256 .sha256
    let hash := "2cf24dba5fb0a30e26e83b2ac5b9e29e1b161e5c1fa7425e73043362938b9824"
    let w : World Proxy.Recording Unit :=
      ⟨{ Store.empty with inFlight := [Entry.blobPath .raw hasher hash] }, .empty, (), []⟩
    let body : Reader :=
      ⟨[Utf8.ofString "hel", Utf8.ofString "lo!"], some "connection reset"⟩
    (body.Short ∧ Entry.blobPath .cas hasher hash ∉ w.store.inFlight) ∧
    (put .cas hasher hash 5 body).run out w = (.error (.sizeMismatch hash 5 6), w) ∧
    Decides out w .cas hasher hash 5 body := by
  intro out hasher hash w body
  have hshort : body.Short := show 6 < _ by decide
  have hfree : Entry.blobPath .cas hasher hash ∉ w.store.inFlight := by decide
  have hdecides : Decides out w .cas hasher hash 5 body :=
    put_decides_exactly out w .cas hasher hash 5 body hshort hfree
  have hnew : ¬ Needless w.store .cas hasher hash := by
    rintro ⟨-, blob, hheld⟩
    cases hheld with
    | empty hempty => exact absurd hempty (by decide)
    | entry _ _ hfind => exact nomatch hfind
  refine ⟨⟨hshort, hfree⟩, (hdecides.outcome _).2 ?_, hdecides⟩
  exact .rejected _ (by decide +kernel) hnew (.tooLong (by decide))

end AssetCache.Cache
