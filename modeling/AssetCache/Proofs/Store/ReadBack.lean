import AssetCache.Proofs.Store.Steps
import AssetCache.Proofs.Store.Verification

/-!
# Reading back

What was put can be read back, and what the store says that it has it gives; but there are two gaps.
A put under a digest under which there is something already succeeds without a look at its body or
its size, so that what it stated of its size need not be true.  And a question for the empty blob is
answered without a look at the size that is asked for, where a request for it is not.

Results:
1. `put_read_back`: after a put that succeeded, what was put is given, unless the store had a blob
   of another size under the digest.
2. `contains_agrees_with_get`: without a proxy, a store says that it has what it gives, and of that
   size, unless it is asked for an empty blob that is not empty.
-/

namespace AssetCache.Cache

variable {π ν : Type} {kind : EntryKind} {hasher : Hasher} {hash : String} {out : Surroundings π ν}
  {w : World π ν}

theorem serve_start (hash : String) (size : Option Nat) (blob : Bytes) :
    serve hash size 0 blob =
      if fits size blob then .ok (some (.ofBytes blob, .known blob.length)) else .ok none := by
  unfold serve
  cases fits size blob with
  | false => rfl
  | true => rfl

/-- A store has one blob at most under a digest. -/
theorem Held.unique {s : Store} {blob blob' : Bytes} (h : Held s kind hasher hash blob)
    (h' : Held s kind hasher hash blob') : blob = blob' := by
  cases h with
  | empty hempty =>
    cases h' with
    | empty => rfl
    | entry _ hnot => exact nomatch hempty.symm.trans hnot
  | entry _ hempty hfind =>
    cases h' with
    | empty hnot => exact nomatch hempty.symm.trans hnot
    | entry _ _ hfind' => exact Option.some.inj (hfind.symm.trans hfind')

/-! ## After a put -/

/-- The store has a blob under its own digest, and of another size. -/
def HeldOtherwise (s : Store) (kind : EntryKind) (hasher : Hasher) (hash : String) (size : Nat) :
    Prop :=
  kind = .cas ∧ ∃ blob, Held s kind hasher hash blob ∧ blob.length ≠ size

/-- What a put that succeeded leaves under its digest: what was there, or what was read of its body,
which is of the stated size. -/
inductive Left (s s' : Store) (kind : EntryKind) (hasher : Hasher) (hash : String) (size : Nat)
    (body : Reader) (blob : Bytes) : Prop
  | kept (hcas : kind = .cas) (hheld : Held s kind hasher hash blob) (hsame : s' = s)
  | stored (hnew : kind = .cas → ∀ found, ¬ Held s kind hasher hash found)
    (hheld : Held s' kind hasher hash blob)
    (hverify : verify kind hasher hash (some size) body = .ok blob)

theorem cas_of_isEmptyBlob (h : isEmptyBlob kind hasher hash = true) : kind = .cas :=
  of_decide_eq_true (Bool.and_eq_true_iff.1 h).1

theorem left_of_put {size : Nat} {body : Reader}
    (hput : ((put kind hasher hash size body).run out w).1 = .ok ()) :
    ∃ blob, Left w.store ((put kind hasher hash size body).run out w).2.store kind hasher hash size
      body blob := by
  obtain ⟨t, hallows, hleads, hafter⟩ :=
    Operation.exists_history out (put kind hasher hash size body) w
  rw [hput] at hleads
  rw [← hafter]
  let path := Entry.blobPath kind hasher hash
  cases put_leads.1 hleads with
  | empty _ hempty => exact ⟨[], .kept (cas_of_isEmptyBlob hempty) (.empty hempty) rfl⟩
  | present _ hempty =>
    have hpresent : (w.store.begin path (kind = .cas)).1 = .present := hallows.1
    have hcas : kind = .cas := of_decide_eq_true (Store.onlyIfAbsent_of_present hpresent)
    obtain ⟨blob, hfind⟩ := Store.exists_of_present hpresent
    exact ⟨blob, .kept hcas (.entry blob hempty hfind)
      (Store.begin_of_refused (hpresent ▸ nofun))⟩
  | stored blob _ hempty hverify =>
    have hstore := store_after_stored hallows
    refine ⟨blob, .stored (fun hcas found hheld => ?_) (.entry blob hempty ?_) hverify⟩
    · have hbegun : (w.store.begin path (kind = .cas)).1 = .begun := hallows.1
      have habsent := Store.absent_of_begun hbegun (decide_eq_true hcas)
      cases hheld with
      | empty hnot => exact nomatch hempty.symm.trans hnot
      | entry _ _ hfind => exact nomatch habsent.symm.trans hfind
    · rw [hstore]
      exact EntryMap.find?_insert_self ..

/-- What is read back right after a put that succeeded. -/
structure ReadBack (out : Surroundings π ν) (w w' : World π ν) (kind : EntryKind) (hasher : Hasher)
    (hash : String) (size : Nat) (body : Reader) : Prop where
  /-- It is a blob of the stated size, which was verified of the body, or was there under its own
  digest; -/
  given : ¬ HeldOtherwise w.store kind hasher hash size →
    ∃ blob, blob.length = size ∧
      (verify kind hasher hash (some size) body = .ok blob ∨
        kind = .cas ∧ Held w.store kind hasher hash blob) ∧
      ((get kind hasher hash (some size) 0).run out w').1 =
        .ok (some (.ofBytes blob, .known size))
  /-- or nothing, where the put left a blob of another size as it was. -/
  missed : HeldOtherwise w.store kind hasher hash size →
    w'.store = w.store ∧ ((get kind hasher hash (some size) 0).run out w').1 = .ok none

/-- After a put that succeeded, a blob of the size that it stated is given; but not if the store had
a blob of another size under the digest, for then the put did nothing. -/
theorem put_read_back {size : Nat} {body : Reader}
    (hput : ((put kind hasher hash size body).run out w).1 = .ok ()) :
    ReadBack out w ((put kind hasher hash size body).run out w).2 kind hasher hash size body := by
  obtain ⟨blob, hleft⟩ := left_of_put hput
  generalize ((put kind hasher hash size body).run out w).2 = w' at hleft ⊢
  have hheld : Held w'.store kind hasher hash blob := by
    cases hleft with
    | kept _ hheld hsame => exact hsame ▸ hheld
    | stored _ hheld => exact hheld
  have hget : ((get kind hasher hash (some size) 0).run out w').1 = _ :=
    (get_of_held hheld).trans (serve_start hash (some size) blob)
  have hgiven (hsize : blob.length = size) :
      ((get kind hasher hash (some size) 0).run out w').1 =
        .ok (some (.ofBytes blob, .known size)) := by
    subst hsize
    exact hget.trans (if_pos (by simp [fits]))
  cases hleft with
  | kept hcas hkept hsame =>
    constructor
    · intro hnot
      have hsize : blob.length = size := by
        by_cases hsize : blob.length = size
        · exact hsize
        · exact absurd ⟨hcas, blob, hkept, hsize⟩ hnot
      exact ⟨blob, hsize, .inr ⟨hcas, hkept⟩, hgiven hsize⟩
    · rintro ⟨-, found, hfound, hsize⟩
      obtain rfl := hfound.unique hkept
      exact ⟨hsame, hget.trans (if_neg (by simpa [fits] using Ne.symm hsize))⟩
  | stored hnew _ hverify =>
    obtain ⟨hsize, -⟩ := length_of_readSized (readSized_of_verify hverify)
    constructor
    · exact fun _ => ⟨blob, hsize, .inl hverify, hgiven hsize⟩
    · rintro ⟨hcas, found, hfound, -⟩
      exact absurd hfound (hnew hcas found)

/-- A blob of five octets is put a second time, with nine stated: the put succeeds, and a blob of
nine octets is not there. -/
theorem put_not_read_back_of_other_size :
    let hasher : Hasher := .ofAlgorithm .sha256 .sha256
    let hash := "2cf24dba5fb0a30e26e83b2ac5b9e29e1b161e5c1fa7425e73043362938b9824"
    let body := Reader.ofBytes (Utf8.ofString "hello")
    let out : Surroundings Unit Unit := ⟨.absent, ⟨fun _ s => (.error (.client "no network"), s)⟩⟩
    let w : World Unit Unit := ((put .cas hasher hash 5 body).run out ⟨.empty, (), (), []⟩).2
    let w' := ((put .cas hasher hash 9 body).run out w).2
    ((put .cas hasher hash 9 body).run out w).1 = .ok () ∧
      HeldOtherwise w.store .cas hasher hash 9 ∧
      ((get .cas hasher hash (some 9) 0).run out w').1 = .ok none ∧
      ReadBack out w w' .cas hasher hash 9 body := by
  intro hasher hash body out w w'
  have hput : ((put .cas hasher hash 9 body).run out w).1 = .ok () := by decide +kernel
  have hback : ReadBack out w w' .cas hasher hash 9 body := put_read_back hput
  have hfind : w.store.entries.find? (Entry.blobPath .cas hasher hash) =
      some (Utf8.ofString "hello") := by decide +kernel
  have hother : HeldOtherwise w.store .cas hasher hash 9 :=
    ⟨rfl, _, .entry _ (by decide +kernel) hfind, by decide +kernel⟩
  exact ⟨hput, hother, (hback.missed hother).2, hback⟩

/-! ## Questions and requests -/

/-- A question that runs alone is answered by a history that can happen. -/
theorem exists_told (kind : EntryKind) (hasher : Hasher) (hash : String) (size : Option Nat)
    (out : Surroundings π ν) (w : World π ν) :
    ∃ t, w.Allows out t ∧
      Told kind hasher hash size t ((contains kind hasher hash size).run out w).1 := by
  obtain ⟨t, hallows, hleads, -⟩ := Operation.exists_history out (contains kind hasher hash size) w
  exact ⟨t, hallows, contains_leads hleads⟩

variable {size : Option Nat} {blob : Bytes}

/-- What a store has it says that it has, whatever the proxy would say. -/
theorem contains_of_entry (hempty : isEmptyBlob kind hasher hash = false)
    (hfind : w.store.entries.find? (Entry.blobPath kind hasher hash) = some blob) :
    ((contains kind hasher hash size).run out w).1 =
      if fits size blob then some (.known blob.length) else none := by
  obtain ⟨t, hallows, htold⟩ := exists_told kind hasher hash size out w
  generalize ((contains kind hasher hash size).run out w).1 = answer at htold ⊢
  have hlookup := (w.store.answer_lookup _).trans hfind
  cases htold with
  | empty he => exact nomatch hempty.symm.trans he
  | stored found =>
    obtain rfl : found = blob := Option.some.inj (hallows.1.symm.trans hlookup)
    rfl
  | asked => exact nomatch hlookup.symm.trans hallows.1

variable {network : Network ν}

theorem contains_of_absent (hempty : isEmptyBlob kind hasher hash = false)
    (habsent : w.store.entries.find? (Entry.blobPath kind hasher hash) = none) :
    ((contains kind hasher hash size).run ⟨.absent, network⟩ w).1 = none := by
  obtain ⟨t, hallows, htold⟩ := exists_told kind hasher hash size ⟨.absent, network⟩ w
  generalize ((contains kind hasher hash size).run ⟨.absent, network⟩ w).1 = answer at htold ⊢
  have hlookup := (w.store.answer_lookup _).trans habsent
  cases htold with
  | empty he => exact nomatch hempty.symm.trans he
  | stored blob => exact nomatch hlookup.symm.trans hallows.1
  | asked answer => exact hallows.2.1.symm

theorem get_of_absent {offset : Nat} (hempty : isEmptyBlob kind hasher hash = false)
    (habsent : w.store.entries.find? (Entry.blobPath kind hasher hash) = none) :
    ((get kind hasher hash size offset).run ⟨.absent, network⟩ w).1 = .ok none := by
  obtain ⟨t, hallows, hfound⟩ := exists_found kind hasher hash size ⟨.absent, network⟩ w
  rw [run_get]
  generalize ((find kind hasher hash size).run ⟨.absent, network⟩ w).1 = result at hfound ⊢
  have hlookup := (w.store.answer_lookup _).trans habsent
  cases hfound with
  | empty he => exact nomatch hempty.symm.trans he
  | stored blob => exact nomatch hlookup.symm.trans hallows.1
  | missing => rfl
  | failed => exact nomatch hallows.2.1
  | rejected => exact nomatch hallows.2.1
  | filled => exact nomatch hallows.2.1

/-- What is told and what is given agree: there is something of one size, or there is nothing. -/
structure Agree (told : Option BlobSize) (given : GetAnswer) : Prop where
  known : ∀ n, told = some (.known n) ↔ ∃ reader, given = .ok (some (reader, .known n))
  missing : told = none ↔ given = .ok none
  total : told = none ∨ ∃ n, told = some (.known n)

theorem agree_missing : Agree none (.ok none) where
  known _ := ⟨nofun, nofun⟩
  missing := ⟨fun _ => rfl, fun _ => rfl⟩
  total := .inl rfl

theorem agree_given (reader : Reader) (n : Nat) :
    Agree (some (.known n)) (.ok (some (reader, .known n))) where
  known m := by
    constructor
    · intro h
      obtain rfl := BlobSize.known.inj (Option.some.inj h)
      exact ⟨reader, rfl⟩
    · rintro ⟨reader', h⟩
      obtain ⟨-, hsize⟩ := Prod.mk.inj (Option.some.inj (Except.ok.inj h))
      rw [hsize]
  missing := ⟨nofun, nofun⟩
  total := .inr ⟨n, rfl⟩

/-- The empty blob is asked for, and a size of it that it does not have. -/
def EmptyOfSize (kind : EntryKind) (hasher : Hasher) (hash : String) (size : Option Nat) : Prop :=
  isEmptyBlob kind hasher hash = true ∧ ∃ n, size = some n ∧ n ≠ 0

/-- Without a proxy, a store says that it has what it gives, of the size that it gives, and gives
nothing of which it says that it does not have it.  Only of the empty blob it says that it has it
even where it would not give it, because another size is asked for. -/
theorem contains_agrees_with_get (network : Network ν) (w : World π ν) (kind : EntryKind)
    (hasher : Hasher) (hash : String) (size : Option Nat) :
    let told := ((contains kind hasher hash size).run ⟨.absent, network⟩ w).1
    let given := ((get kind hasher hash size 0).run ⟨.absent, network⟩ w).1
    (¬ EmptyOfSize kind hasher hash size → Agree told given) ∧
      (EmptyOfSize kind hasher hash size → told = some (.known 0) ∧ given = .ok none) := by
  intro told given
  cases hempty : isEmptyBlob kind hasher hash with
  | true =>
    -- Here the size is looked at for what is given, and not for what is told.
    have htold : told = some (.known 0) := by
      show ((contains kind hasher hash size).run _ w).1 = _
      rw [contains, if_pos hempty]
      rfl
    have hgiven : given = _ := (get_of_held (.empty hempty)).trans (serve_start hash size [])
    rw [htold, hgiven]
    cases hfits : fits size [] with
    | true =>
      refine ⟨fun _ => agree_given _ 0, ?_⟩
      rintro ⟨-, n, rfl, hn⟩
      exact absurd (of_decide_eq_true hfits) hn
    | false =>
      refine ⟨fun hnot => absurd ⟨hempty, ?_⟩ hnot, fun _ => ⟨rfl, rfl⟩⟩
      cases size with
      | none => exact nomatch hfits
      | some n => exact ⟨n, rfl, of_decide_eq_false hfits⟩
  | false =>
    refine ⟨fun _ => ?_, fun hother => nomatch hempty.symm.trans hother.1⟩
    cases hfind : w.store.entries.find? (Entry.blobPath kind hasher hash) with
    | some blob =>
      have htold : told = _ := contains_of_entry hempty hfind
      have hgiven : given = _ :=
        (get_of_held (.entry blob hempty hfind)).trans (serve_start hash size blob)
      rw [htold, hgiven]
      cases fits size blob with
      | true => exact agree_given _ _
      | false => exact agree_missing
    | none =>
      have htold : told = none := contains_of_absent hempty hfind
      have hgiven : given = .ok none := get_of_absent hempty hfind
      rw [htold, hgiven]
      exact agree_missing

/-- Asked for five octets under the digest of the empty blob, a store says that it has that blob,
and gives nothing. -/
theorem empty_blob_told_of_other_size :
    let hasher : Hasher := .ofAlgorithm .sha256 .sha256
    let hash := "e3b0c44298fc1c149afbf4c8996fb92427ae41e4649b934ca495991b7852b855"
    let out : Surroundings Unit Unit := ⟨.absent, ⟨fun _ s => (.error (.client "no network"), s)⟩⟩
    let w : World Unit Unit := ⟨.empty, (), (), []⟩
    let told := ((contains .cas hasher hash (some 5)).run out w).1
    let given := ((get .cas hasher hash (some 5) 0).run out w).1
    told = some (.known 0) ∧ given = .ok none ∧ ¬ Agree told given := by
  intro hasher hash out w told given
  have htold : told = some (.known 0) := by decide +kernel
  have hgiven : given = .ok none := by decide +kernel
  exact ⟨htold, hgiven, fun h => nomatch htold.symm.trans (h.missing.2 hgiven)⟩

end AssetCache.Cache
