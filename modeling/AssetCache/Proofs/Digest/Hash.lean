import AssetCache.Digest.Hasher
import AssetCache.Proofs.Text.Hex

/-!
# Digests as texts

Results:
1. `Hasher.hash_nil`: the digest that a hasher states for no octets is the one that it computes.
2. `Hasher.validate_eq_ok_iff`: the texts that are digests: lower-case digits, two for each octet.
3. `Hasher.validate_encode`, `Hasher.validate_hash`: octets in hexadecimal are a digest where they
   are as many as are due, as those that are computed are.
4. `Hasher.slash_not_mem_hash`, `Hasher.slash_not_mem_of_validate`: there is no slash in a digest.
-/

namespace AssetCache

namespace Digest.Algorithm

theorem hash_nil (a : Algorithm) : a.hash [] = a.emptyHash := by
  -- Each of the six is computed.
  cases a with
  | sha256 => decide +kernel
  | sha1 => decide +kernel
  | md5 => decide +kernel
  | sha384 => decide +kernel
  | sha512 => decide +kernel
  | blake3 => decide +kernel

theorem length_digest (a : Algorithm) (message : Bytes) : (a.digest message).length = a.size := by
  -- Each of the six ends by writing out its state.
  cases a with
  | sha256 => rfl
  | sha1 => rfl
  | md5 => rfl
  | sha384 => rfl
  | sha512 => rfl
  | blake3 => rfl

/-- The digests with as many octets as those of SHA-256. -/
theorem size_eq_sha256_iff {a : Algorithm} : a.size = sha256.size ↔ a = .sha256 ∨ a = .blake3 := by
  cases a with
  | _ => decide

end Digest.Algorithm

namespace Hasher

@[simp] theorem hash_nil (h : Hasher) : h.hash [] = h.empty := Digest.Algorithm.hash_nil h.algorithm

theorem validate_of_lowerDigits (h : Hasher) {value : String}
    (hdigits : ∀ c ∈ value.toList, Hex.isLowerDigit c = true) :
    h.validate value =
      if value.toList.length = h.size * 2 then .ok ()
      else .error (.invalidLength h.name value.toList.length (h.size * 2)) := by
  have hlength : Utf8.length value = value.toList.length :=
    Hex.length_of_digits fun c hc => Hex.isDigit_of_isLowerDigit (hdigits c hc)
  unfold validate
  rw [hlength, List.all_eq_true.2 hdigits]
  by_cases hsize : value.toList.length = h.size * 2
  · rw [if_pos hsize, if_neg (Classical.not_not.2 hsize)]
    rfl
  · rw [if_neg hsize, if_pos hsize]

/-- A text is a digest of a hasher if it consists of lower-case digits, two for each octet. -/
theorem validate_eq_ok_iff {h : Hasher} {value : String} :
    h.validate value = .ok () ↔
      value.toList.length = h.size * 2 ∧ ∀ c ∈ value.toList, Hex.isLowerDigit c = true := by
  constructor
  · intro hvalid
    have hdigits : ∀ c ∈ value.toList, Hex.isLowerDigit c = true := by
      unfold validate at hvalid
      dsimp only at hvalid
      split at hvalid
      next => exact nomatch hvalid
      next =>
        split at hvalid
        next => exact nomatch hvalid
        next hall => simpa using hall
    rw [validate_of_lowerDigits h hdigits] at hvalid
    split at hvalid
    next hsize => exact ⟨hsize, hdigits⟩
    next => exact nomatch hvalid
  · rintro ⟨hsize, hdigits⟩
    rw [validate_of_lowerDigits h hdigits, if_pos hsize]

/-- The digests of a hasher are the written forms of as many octets as it has. -/
theorem validate_iff_encoded {h : Hasher} {value : String} :
    h.validate value = .ok () ↔ ∃ raw : Bytes, raw.length = h.size ∧ value = Hex.encode raw := by
  rw [validate_eq_ok_iff, Hex.exists_encode_iff, Nat.mul_comm]

/-- Octets in hexadecimal are a digest of a hasher if they are as many as its digests have. -/
theorem validate_encode (h : Hasher) (raw : Bytes) :
    h.validate (Hex.encode raw) =
      if raw.length = h.size then .ok ()
      else .error (.invalidLength h.name (2 * raw.length) (h.size * 2)) := by
  have hchars := Hex.toList_encode raw
  rw [validate_of_lowerDigits h (hchars ▸ Hex.isLowerDigit_encodeChars raw), hchars,
    Hex.length_encodeChars]
  by_cases hsize : raw.length = h.size
  · rw [if_pos hsize, if_pos (by omega)]
  · rw [if_neg hsize, if_neg (by omega)]

/-- What a hasher computes is a digest of its own. -/
theorem validate_hash (h : Hasher) (blob : Bytes) : h.validate (h.hash blob) = .ok () := by
  have hlength : (h.algorithm.digest blob).length = h.size := h.algorithm.length_digest blob
  exact (validate_encode h _).trans (if_pos hlength)

theorem validate_empty (h : Hasher) : h.validate h.empty = .ok () :=
  h.hash_nil ▸ h.validate_hash []

/-- A blob may be put under its digest. -/
theorem validateDigest_hash (h : Hasher) (blob : Bytes) :
    h.validateDigest (h.hash blob) blob.length = .ok () := by
  unfold validateDigest
  cases blob with
  | nil => simp [isEmptyHash]
  | cons => exact h.validate_hash _

theorem slash_not_mem_hash (h : Hasher) (blob : Bytes) : '/' ∉ (h.hash blob).toList := by
  intro hmem
  have hchars : (h.hash blob).toList = Hex.encodeChars (h.algorithm.digest blob) :=
    String.toList_ofList
  have hdigit := Hex.isLowerDigit_encodeChars _ _ (hchars ▸ hmem)
  exact absurd hdigit (by decide)

theorem slash_not_mem_of_validate {h : Hasher} {value : String}
    (hvalidate : h.validate value = .ok ()) : '/' ∉ value.toList := by
  intro hmem
  exact absurd ((validate_eq_ok_iff.1 hvalidate).2 _ hmem) (by decide)

theorem eq_empty_of_isEmptyHash {h : Hasher} {hash : String} (he : h.isEmptyHash hash = true) :
    hash = h.empty :=
  beq_iff_eq.1 he

end Hasher

end AssetCache
