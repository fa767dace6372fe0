import AssetCache.Proofs.Store.Steps

/-!
# Where a blob is

A request for a blob is answered from the store, or else from the proxy, and it should not matter
which of the two has the blob.  What comes from the proxy is verified with the size that the proxy
gives, and with the one that is asked for where the proxy gives none.  So a blob that is not of the
size that is asked for is not given, if the store has it or the proxy tells its size; but if the
proxy hides its size, the request fails.

Results:
1. `get_of_behind`: the answer to a request for a blob that only the proxy has.
2. `get_wherever`: the answer is the same wherever the blob is, unless the proxy hides its size and
   it is asked for with another one.
-/

namespace AssetCache.Cache

variable {π ν : Type} {kind : EntryKind} {hasher : Hasher} {hash : String} {size : Option Nat}
  {blob : Bytes}

/-! ## Verification of what a proxy has -/

/-- A blob is what it goes by: under a digest, it has that digest. -/
def Genuine (kind : EntryKind) (hasher : Hasher) (hash : String) (blob : Bytes) : Prop :=
  kind = .cas → hasher.hash blob = hash

theorem verify_of_genuine {expected : Option Nat} (hgenuine : Genuine kind hasher hash blob)
    (hsize : ∀ n, expected = some n → n = blob.length) (hlength : blob.length ≤ Decimal.largest) :
    verify kind hasher hash expected (.ofBytes blob) = .ok blob := by
  by_cases hcas : kind = .cas
  · subst hcas
    rw [verify_ofBytes hsize hlength, if_pos (hgenuine rfl)]
  · exact verify_of_readAll hcas (Reader.readAll_ofBytes blob) hsize hlength

/-- Of a blob that is too long, one octet more is read than was expected; one that is too short is
read to its end. -/
theorem verify_of_other_size {expected : Nat} (hsize : expected ≠ blob.length)
    (hlength : blob.length ≤ Decimal.largest) :
    verify kind hasher hash (some expected) (.ofBytes blob) =
      .error (.sizeMismatch hash expected (min (expected + 1) blob.length)) := by
  have hread : (Reader.ofBytes blob).read (Reader.oneMore expected) =
      .ok (blob.take (expected + 1)) := by
    unfold Reader.read Reader.oneMore
    rw [Reader.bytes_ofBytes, Reader.readAll_ofBytes]
    split
    next hle => exact congrArg Except.ok (List.take_eq_take_iff.2 (by omega))
    next hgt => rw [List.take_of_length_le (by omega)]
  have hother : (blob.take (expected + 1)).length ≠ expected := by
    rw [List.length_take]
    omega
  unfold verify readSized
  dsimp only
  rw [hread]
  dsimp only
  rw [if_neg hother, List.length_take]

/-! ## Requests for a blob behind the store -/

/-- A blob is behind the store: the recording proxy has it, and the store does not. -/
structure Behind (w : World Proxy.Recording ν) (kind : EntryKind) (hasher : Hasher) (hash : String)
    (blob : Bytes) : Prop where
  absent : w.store.entries.find? (Entry.blobPath kind hasher hash) = none
  given : w.proxy.find? kind hash = some blob

theorem get_of_behind {hideSizes : Bool} {network : Network ν} {w : World Proxy.Recording ν}
    {offset : Nat} (hempty : isEmptyBlob kind hasher hash = false)
    (h : Behind w kind hasher hash blob) :
    ((get kind hasher hash size offset).run ⟨.recording hideSizes, network⟩ w).1 =
      delivered hash size offset ((verify kind hasher hash
        ((Proxy.recordedSize hideSizes blob).known?.or size) (.ofBytes blob)).map some) := by
  have hgiven : ((Proxy.recording hideSizes).get kind hash size w.proxy).1 =
      .ok (some (.ofBytes blob, Proxy.recordedSize hideSizes blob)) := by
    show Except.ok ((w.proxy.find? kind hash).map _) = _
    rw [h.given]
    rfl
  rw [run_get, find_of_given hempty h.absent hgiven]

/-- A blob is asked for with a size that it does not have. -/
def Misjudged (kind : EntryKind) (hasher : Hasher) (hash : String) (size : Option Nat)
    (blob : Bytes) (n : Nat) : Prop :=
  isEmptyBlob kind hasher hash = false ∧ size = some n ∧ n ≠ blob.length

theorem serve_of_misjudged {offset n : Nat} (h : Misjudged kind hasher hash size blob n) :
    serve hash size offset blob = .ok none := by
  obtain ⟨-, rfl, hsize⟩ := h
  unfold serve
  rw [if_pos (by simpa [fits] using hsize)]

/-- The answers to a request for a blob that is in the store, behind a proxy that tells sizes, or
behind one that hides them. -/
structure Wherever (kind : EntryKind) (hasher : Hasher) (hash : String) (size : Option Nat)
    (blob : Bytes) (inStore told hidden : GetAnswer) : Prop where
  /-- It does not matter whether the store has the blob, or a proxy that tells its size; -/
  told_eq : told = inStore
  /-- nor does it matter that a proxy hides its size, if that size is asked for, or none; -/
  hidden_eq : (∀ n, ¬ Misjudged kind hasher hash size blob n) → hidden = inStore
  /-- but with another size, a request to such a proxy fails where the others give nothing. -/
  misjudged : ∀ n, Misjudged kind hasher hash size blob n →
    inStore = .ok none ∧ hidden = .error (.sizeMismatch hash n (min (n + 1) blob.length))

/-- A request for a blob is answered alike wherever the blob is, from whatever offset on, unless the
proxy that has it hides its size and it is asked for with another one. -/
theorem get_wherever {ν₁ ν₂ : Type} {out : Surroundings π ν} {w : World π ν}
    {network₁ : Network ν₁} {w₁ : World Proxy.Recording ν₁}
    {network₂ : Network ν₂} {w₂ : World Proxy.Recording ν₂}
    (hgenuine : Genuine kind hasher hash blob) (hlength : blob.length ≤ Decimal.largest)
    (hinStore : w.store.entries.find? (Entry.blobPath kind hasher hash) = some blob)
    (htold : Behind w₁ kind hasher hash blob) (hhidden : Behind w₂ kind hasher hash blob)
    (size : Option Nat) (offset : Nat) :
    Wherever kind hasher hash size blob
      ((get kind hasher hash size offset).run out w).1
      ((get kind hasher hash size offset).run ⟨.recording false, network₁⟩ w₁).1
      ((get kind hasher hash size offset).run ⟨.recording true, network₂⟩ w₂).1 := by
  cases hempty : isEmptyBlob kind hasher hash with
  | true =>
    -- The empty blob is given by every store, whatever there is under its digest.
    rw [get_of_held (.empty hempty), get_of_held (.empty hempty), get_of_held (.empty hempty)]
    exact ⟨rfl, fun _ => rfl, fun n h => nomatch hempty.symm.trans h.1⟩
  | false =>
    rw [get_of_held (.entry blob hempty hinStore), get_of_behind hempty htold,
      get_of_behind hempty hhidden]
    refine ⟨?_, fun hjudged => ?_, fun n h => ⟨serve_of_misjudged h, ?_⟩⟩
    · have hsize : ∀ n, (Proxy.recordedSize false blob).known?.or size = some n →
          n = blob.length := fun n h => (Option.some.inj h).symm
      rw [verify_of_genuine hgenuine hsize hlength]
      rfl
    · have hsize : ∀ n, (Proxy.recordedSize true blob).known?.or size = some n →
          n = blob.length := fun n h =>
        Decidable.byContradiction fun hn => hjudged n ⟨hempty, h, hn⟩
      rw [verify_of_genuine hgenuine hsize hlength]
      rfl
    · obtain ⟨-, rfl, hsize⟩ := h
      show delivered _ _ _ ((verify kind hasher hash (some n) _).map some) = _
      rw [verify_of_other_size hsize hlength]
      rfl

/-- A blob of three octets is asked for with five: there is nothing in the store and behind a proxy
that tells its size, and the request fails where the proxy hides it. -/
theorem get_fails_of_hidden_size :
    let hasher : Hasher := .ofAlgorithm .sha256 .sha256
    let old := Utf8.ofString "old"
    let seeded := Proxy.Recording.empty.seed .raw "k" old
    let out (hideSizes : Bool) : Surroundings Proxy.Recording Unit :=
      ⟨.recording hideSizes, ⟨fun _ s => (.error (.client "no network"), s)⟩⟩
    let w : World Proxy.Recording Unit :=
      ⟨Store.empty.insert (Entry.blobPath .raw hasher "k") old, .empty, (), []⟩
    let w' : World Proxy.Recording Unit := ⟨.empty, seeded, (), []⟩
    let inStore := ((get .raw hasher "k" (some 5) 0).run (out false) w).1
    let told := ((get .raw hasher "k" (some 5) 0).run (out false) w').1
    let hidden := ((get .raw hasher "k" (some 5) 0).run (out true) w').1
    Wherever .raw hasher "k" (some 5) old inStore told hidden ∧
      inStore = .ok none ∧ told = .ok none ∧ hidden = .error (.sizeMismatch "k" 5 3) := by
  intro hasher old seeded out w w' inStore told hidden
  have hbehind : Behind w' .raw hasher "k" old := ⟨by decide +kernel, by decide +kernel⟩
  have hgenuine : Genuine .raw hasher "k" old := fun h => nomatch h
  have hlength : old.length ≤ Decimal.largest := by decide +kernel
  have hinStore : w.store.entries.find? (Entry.blobPath .raw hasher "k") = some old := by
    decide +kernel
  have hwherever : Wherever .raw hasher "k" (some 5) old inStore told hidden :=
    get_wherever hgenuine hlength hinStore hbehind hbehind (some 5) 0
  have hother : Misjudged .raw hasher "k" (some 5) old 5 :=
    ⟨by decide +kernel, rfl, by decide +kernel⟩
  obtain ⟨hnone, hfails⟩ := hwherever.misjudged 5 hother
  exact ⟨hwherever, hnone, hwherever.told_eq.trans hnone, hfails⟩

end AssetCache.Cache
