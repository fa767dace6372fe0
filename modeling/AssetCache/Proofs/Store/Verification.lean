import AssetCache.Store.Cache

/-!
# Verification

A body of a stated size is read up to one octet more than that, so that one that is too long is
noticed.  Sizes have 64 bits: only a body of the largest size or more could go unnoticed.

Results:
1. `Reader.readAll_of_read`: a body that was not longer than its limit was read to its end.
2. `Cache.hash_eq_of_verify`, `Cache.of_verify_sized`: what is verified has the stated digest and
   the stated size, and is all of the body.
-/

namespace AssetCache

/-- A body that has fewer octets than the largest size. -/
def Reader.Short (body : Reader) : Prop := body.bytes.length < Decimal.largest

theorem Reader.readAll_of_read {body : Reader} {limit : Nat} {blob : Bytes} (hshort : body.Short)
    (h : body.read (oneMore limit) = .ok blob) (hlength : blob.length ≤ limit) :
    body.readAll = .ok blob := by
  unfold Reader.read at h
  split at h
  next hle =>
    -- The reader was cut off, so the limit was the largest size or the blob is too long.
    unfold Reader.Short at hshort
    have hone : oneMore limit = limit + 1 := by unfold oneMore at hle ⊢; omega
    have hblob : blob.length = limit + 1 := by
      rw [← Except.ok.inj h, List.length_take, hone]
      omega
    omega
  next => exact h

/-- Who would read more of a body than there is reads it to its end. -/
theorem Reader.read_oneMore {body : Reader} {limit : Nat} (hshort : body.Short)
    (hlimit : body.bytes.length ≤ limit) : body.read (oneMore limit) = body.readAll := by
  have hmore : ¬ oneMore limit ≤ body.bytes.length := by
    unfold Reader.Short at hshort
    unfold oneMore
    omega
  exact if_neg hmore

/-- Of a body that has more octets than its limit no more is read than shows that; how it ends is
not met. -/
theorem Reader.read_oneMore_of_lt {body : Reader} {limit : Nat} (hshort : body.Short)
    (hlimit : limit < body.bytes.length) :
    body.read (oneMore limit) = .ok (body.bytes.take (limit + 1)) := by
  have hone : oneMore limit = limit + 1 := by
    unfold Reader.Short at hshort
    unfold oneMore
    omega
  rw [hone]
  exact if_pos hlimit

theorem Reader.bytes_of_readAll {body : Reader} {blob : Bytes} (h : body.readAll = .ok blob) :
    body.bytes = blob := by
  unfold Reader.readAll at h
  split at h
  · exact Except.ok.inj h
  · exact nomatch h

/-- Who reads as much as there is, or more, reads all of it. -/
theorem Reader.read_of_readAll {body : Reader} {limit : Nat} {blob : Bytes}
    (hread : body.readAll = .ok blob) (hlimit : blob.length ≤ limit) :
    body.read limit = .ok blob := by
  unfold Reader.read
  rw [Reader.bytes_of_readAll hread]
  split
  next => rw [List.take_of_length_le hlimit]
  next => exact hread

theorem Reader.le_oneMore {n limit : Nat} (h : n ≤ limit) (hlargest : n ≤ Decimal.largest) :
    n ≤ oneMore limit :=
  Nat.le_min.2 ⟨Nat.le_succ_of_le h, hlargest⟩

/-- Of however long a body, not more is read than sizes can tell. -/
theorem Reader.length_le_of_read {body : Reader} {limit : Nat} {blob : Bytes}
    (h : body.read (oneMore limit) = .ok blob) : blob.length ≤ Decimal.largest := by
  have hmost : oneMore limit ≤ Decimal.largest := Nat.min_le_right _ _
  unfold Reader.read at h
  split at h
  next hle =>
    rw [← Except.ok.inj h, List.length_take, Nat.min_eq_left hle]
    exact hmost
  next hgt =>
    rw [← Reader.bytes_of_readAll h]
    omega

@[simp] theorem Reader.readAll_ofBytes (blob : Bytes) :
    (Reader.ofBytes blob).readAll = .ok blob := by
  simp [Reader.readAll, Reader.ofBytes, Reader.bytes]

@[simp] theorem Reader.bytes_ofBytes (blob : Bytes) : (Reader.ofBytes blob).bytes = blob := by
  simp [Reader.ofBytes, Reader.bytes]

namespace Cache

open Operation (act)

variable {kind : EntryKind} {hasher : Hasher} {hash : String} {body : Reader} {blob : Bytes}

theorem length_of_readSized {size : Nat} (h : readSized hash (some size) body = .ok blob) :
    blob.length = size ∧ body.read (Reader.oneMore size) = .ok blob := by
  unfold readSized at h
  dsimp only at h
  split at h
  next => exact nomatch h
  next found hread =>
    split at h
    next hlength => exact Except.ok.inj h ▸ ⟨hlength, hread⟩
    next => exact nomatch h

theorem readSized_of_verify {expected : Option Nat}
    (h : verify kind hasher hash expected body = .ok blob) :
    readSized hash expected body = .ok blob := by
  unfold verify at h
  split at h
  next => exact nomatch h
  next found hread =>
    split at h
    · split at h
      · exact hread.trans h
      · exact nomatch h
    · exact hread.trans h

/-- What is verified under a digest has that digest. -/
theorem hash_eq_of_verify {expected : Option Nat}
    (h : verify .cas hasher hash expected body = .ok blob) : hasher.hash blob = hash := by
  unfold verify at h
  split at h
  · exact nomatch h
  · rw [if_pos rfl] at h
    split at h
    next heq => exact Except.ok.inj h ▸ heq
    next => exact nomatch h

/-- What is verified with a size has that size, and is all of the body. -/
theorem of_verify_sized {size : Nat} (hshort : body.Short)
    (h : verify kind hasher hash (some size) body = .ok blob) :
    blob.length = size ∧ body.readAll = .ok blob := by
  obtain ⟨hlength, hread⟩ := length_of_readSized (readSized_of_verify h)
  exact ⟨hlength, Reader.readAll_of_read hshort hread (Nat.le_of_eq hlength)⟩

/-- A body that can be read to its end is read, if it is as long as was stated. -/
theorem readSized_of_readAll {expected : Option Nat} (hread : body.readAll = .ok blob)
    (hsize : ∀ n, expected = some n → n = blob.length) (hlength : blob.length ≤ Decimal.largest) :
    readSized hash expected body = .ok blob := by
  unfold readSized
  cases expected with
  | none => rw [hread]
  | some n =>
    obtain rfl := hsize n rfl
    have hall : body.read (Reader.oneMore blob.length) = .ok blob :=
      Reader.read_of_readAll hread (Reader.le_oneMore (Nat.le_refl _) hlength)
    dsimp only
    rw [hall]
    exact if_pos rfl

/-- What is not addressed by its digest is verified if it can be read. -/
theorem verify_of_readAll {expected : Option Nat} (hkind : kind ≠ .cas)
    (hread : body.readAll = .ok blob) (hsize : ∀ n, expected = some n → n = blob.length)
    (hlength : blob.length ≤ Decimal.largest) :
    verify kind hasher hash expected body = .ok blob := by
  unfold verify
  rw [readSized_of_readAll hread hsize hlength]
  exact if_neg hkind

/-- What is addressed by its digest is verified if it can be read and has the digest. -/
theorem verify_cas_of_readAll {expected : Option Nat} (hread : body.readAll = .ok blob)
    (hsize : ∀ n, expected = some n → n = blob.length) (hlength : blob.length ≤ Decimal.largest) :
    verify .cas hasher hash expected body =
      if hasher.hash blob = hash then .ok blob
      else .error (.hashMismatch hash (hasher.hash blob)) := by
  unfold verify
  rw [readSized_of_readAll hread hsize hlength]
  exact if_pos rfl

theorem verify_ofBytes {expected : Option Nat} (hsize : ∀ n, expected = some n → n = blob.length)
    (hlength : blob.length ≤ Decimal.largest) :
    verify .cas hasher hash expected (.ofBytes blob) =
      if hasher.hash blob = hash then .ok blob
      else .error (.hashMismatch hash (hasher.hash blob)) :=
  verify_cas_of_readAll (Reader.readAll_ofBytes blob) hsize hlength

/-- A body that is as long as was stated is verified if it can be read and has the digest. -/
theorem verify_of_short (hshort : body.Short) :
    verify .cas hasher hash (some body.bytes.length) body =
      match body.readAll with
      | .error reason => .error (.io reason)
      | .ok blob =>
        if hasher.hash blob = hash then .ok blob
        else .error (.hashMismatch hash (hasher.hash blob)) := by
  cases hread : body.readAll with
  | error reason =>
    unfold verify readSized
    dsimp only
    rw [Reader.read_oneMore hshort (Nat.le_refl _), hread]
  | ok blob =>
    obtain rfl := Reader.bytes_of_readAll hread
    exact verify_cas_of_readAll hread (fun n hn => (Option.some.inj hn).symm)
      (Nat.le_of_lt hshort)

/-- Whatever is expected of a blob, what is verified of it is all of it. -/
theorem eq_of_verify_ofBytes {expected : Option Nat} {found : Bytes}
    (hlength : blob.length ≤ Decimal.largest)
    (h : verify kind hasher hash expected (.ofBytes blob) = .ok found) : found = blob := by
  have hread := readSized_of_verify h
  cases expected with
  | none =>
    unfold readSized at hread
    rw [Reader.readAll_ofBytes] at hread
    exact (Except.ok.inj hread).symm
  | some size =>
    obtain ⟨hsize, hread⟩ := length_of_readSized hread
    unfold Reader.read at hread
    rw [Reader.bytes_ofBytes, Reader.readAll_ofBytes] at hread
    split at hread
    next hle =>
      -- One octet more than the size was not read, so the size is the largest one.
      obtain rfl := Except.ok.inj hread
      rw [List.length_take, Nat.min_eq_left hle] at hsize
      have hall : blob.length ≤ Reader.oneMore size := by
        unfold Reader.oneMore at hsize ⊢
        omega
      exact List.take_of_length_le hall
    next => exact (Except.ok.inj hread).symm

/-- Of the body of a put, only what is verified of it matters. -/
theorem put_congr {size : Nat} {body' : Reader}
    (h : verify kind hasher hash (some size) body = verify kind hasher hash (some size) body') :
    put kind hasher hash size body = put kind hasher hash size body' := by
  unfold put write
  rw [h]

end Cache

end AssetCache
