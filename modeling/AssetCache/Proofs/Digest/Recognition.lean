import AssetCache.Proofs.Digest.Hash
import AssetCache.Proofs.Digest.Registry

/-!
# Recognizing digests

A bare digest does not say which hasher it is of; all that tells is how long it is.  Of the built-in
digests two are of one length, and it stands for the older of them.

Results:
1. `Registry.infer?_of_validate`: of a digest, its length alone decides what is guessed.
2. `Registry.infer?_of_standard`: of the built-in hashers each is guessed, but for BLAKE3.
3. `Hasher.digests_recognized`: what hashers compute, what they take for digests of their own, and
   what is guessed of it.
-/

namespace AssetCache

variable {h : Hasher} {value : String}

/-! ## One hasher -/

namespace Hasher

theorem length_of_validate (hvalid : h.validate value = .ok ()) :
    Utf8.length value = h.size * 2 := by
  obtain ⟨hlength, hdigits⟩ := validate_eq_ok_iff.1 hvalid
  rw [← hlength]
  exact Hex.length_of_digits fun c hc => Hex.isDigit_of_isLowerDigit (hdigits c hc)

/-- No blob but the empty one has no octets, so its digest is the only one. -/
theorem validateDigest_zero_iff : h.validateDigest value 0 = .ok () ↔ value = h.hash [] := by
  rw [validateDigest, if_pos rfl, hash_nil]
  constructor
  · intro hvalid
    split at hvalid
    next hempty => exact eq_empty_of_isEmptyHash hempty
    next => exact nomatch hvalid
  · rintro rfl
    rw [isEmptyHash, beq_self_eq_true, if_pos rfl]

theorem validateDigest_of_pos {size : Nat} (hpos : 0 < size) :
    h.validateDigest value size = h.validate value := by
  rw [validateDigest, if_neg (Nat.ne_of_gt hpos)]

end Hasher

/-! ## A registry of hashers -/

namespace Registry

theorem infer?_of_validate {r : Registry} (hvalid : h.validate value = .ok ()) :
    r.infer? value = (functionOfLength? (h.size * 2)).bind r.byFunction := by
  rw [infer?, Hasher.length_of_validate hvalid]

/-- The function that the length of a built-in digest stands for. -/
theorem functionOfLength?_of_standard : ∀ h ∈ standard.hashers,
    functionOfLength? (h.size * 2) =
      some (if h.function = .blake3 then .sha256 else h.function) := by
  decide

/-- SHA-256 is guessed of the digests of BLAKE3, and of any other built-in hasher itself. -/
theorem infer?_of_standard (hmem : h ∈ standard.hashers) (hvalid : h.validate value = .ok ()) :
    standard.infer? value =
      some (if h.function = .blake3 then .ofAlgorithm .sha256 .sha256 else h) := by
  rw [infer?_of_validate hvalid, functionOfLength?_of_standard h hmem, Option.bind_some]
  split
  next => rfl
  next => exact mem_hashers_iff.1 hmem

end Registry

/-- A hasher takes for its digests the written forms of as many octets as it has, and what it
computes is one of them.  Of no octets its only digest is the one that it computes of them; of any
others the number makes no difference.  What is guessed of a digest of a built-in hasher is that
hasher, or SHA-256 in the place of BLAKE3. -/
theorem Hasher.digests_recognized (h : Hasher) :
    (∀ value, h.validate value = .ok () ↔
      ∃ raw : Bytes, raw.length = h.size ∧ value = Hex.encode raw) ∧
    (∀ blob, h.validate (h.hash blob) = .ok () ∧
      h.validateDigest (h.hash blob) blob.length = .ok ()) ∧
    (∀ value, h.validateDigest value 0 = .ok () ↔ value = h.hash []) ∧
    (∀ value size, 0 < size → h.validateDigest value size = h.validate value) ∧
    (h ∈ Registry.standard.hashers → ∀ blob, Registry.standard.infer? (h.hash blob) =
      some (if h.function = .blake3 then .ofAlgorithm .sha256 .sha256 else h)) :=
  ⟨fun _ => validate_iff_encoded, fun blob => ⟨h.validate_hash blob, h.validateDigest_hash blob⟩,
    fun _ => validateDigest_zero_iff, fun _ _ => validateDigest_of_pos,
    fun hmem blob => Registry.infer?_of_standard hmem (h.validate_hash blob)⟩

/-- BLAKE3 is built in, takes the digest of no octets for one of its own, and that is guessed to be
of SHA-256. -/
theorem Hasher.digests_recognized_of_blake3 :
    let h := Hasher.ofAlgorithm .blake3 .blake3
    h ∈ Registry.standard.hashers ∧ h.validateDigest (h.hash []) 0 = .ok () ∧
      h.validateDigest (h.hash []) 1 = .ok () ∧
      Registry.standard.infer? (h.hash []) = some (.ofAlgorithm .sha256 .sha256) := by
  intro h
  have hmem : h ∈ Registry.standard.hashers := by decide
  obtain ⟨-, hown, hzero, hpos, hguess⟩ := digests_recognized h
  refine ⟨hmem, (hzero _).2 rfl, ?_, hguess hmem []⟩
  rw [hpos _ 1 Nat.one_pos]
  exact (hown []).1

end AssetCache
