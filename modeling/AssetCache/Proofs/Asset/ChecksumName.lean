import AssetCache.Proofs.Asset.Candidates
import AssetCache.Proofs.Digest.Checksum
import AssetCache.Proofs.Digest.Hash
import AssetCache.Proofs.Digest.Registration

/-!
# Hashers by their checksums

A checksum is written of any name, but read up to its first `-`, and hashers may be registered under
any names.  So the checksums of a hasher lead back to it and to the digest if there is no `-` in its
name; if there is one, the rest of the name is taken for a part of the digest, which it cannot be.

Results:
1. `Hasher.exists_sri`: every digest of a hasher is written.
2. `Resolver.parseChecksum_eq_ok_iff`: what is read is a checksum of a registered hasher.
3. `Resolver.parseChecksum_of_dash`: a checksum of a name with a `-` is refused.
4. `Resolver.checksum_names_hasher_unless_dash`: all of it together.
-/

namespace AssetCache

/-! ## Writing -/

/-- The checksum of a digest is the name, a `-`, and the digest in base 64. -/
theorem Hasher.exists_sri {h : Hasher} {hash : String} (hvalid : h.validate hash = .ok ()) :
    ∃ raw, hash = Hex.encode raw ∧ h.sri hash = .ok (h.name ++ "-" ++ Base64.encode raw) := by
  obtain ⟨raw, -, rfl⟩ := validate_iff_encoded.1 hvalid
  exact ⟨raw, rfl, Sri.encode_hex h.name raw⟩

/-! ## Reading -/

/-- What stands behind the first `-` of a name is no part of a digest. -/
theorem Sri.parse_of_dash {algorithm : String} (h : '-' ∈ algorithm.toList) (raw : Bytes) :
    ∃ digest cause,
      parse (algorithm ++ "-" ++ Base64.encode raw) = .error (.base64 digest cause) := by
  obtain ⟨before, after, hname, hfirst⟩ := List.eq_append_cons_of_mem h
  have htext : (algorithm ++ "-" ++ Base64.encode raw).toList =
      before ++ '-' :: (after ++ '-' :: Base64.encodeChars raw) := by
    rw [toList_written, hname, List.append_assoc, List.cons_append]
  have hsplit := splitDash_eq_some_iff.2 ⟨htext, hfirst⟩
  unfold parse
  rw [hsplit]
  dsimp only
  cases hdecode : Base64.decode (Utf8.encode (after ++ '-' :: Base64.encodeChars raw)) with
  | ok other =>
    have hdash : '-' ∈ Base64.encodeChars other := by
      rw [← Base64.decode_eq_ok_iff.1 hdecode]
      simp
    exact absurd hdash (Base64.dash_not_mem_encodeChars other)
  | error cause => exact ⟨_, cause, rfl⟩

namespace Resolver

variable {r : Resolver}

/-- A text is read as a hasher and a digest if the hasher is registered, without a `-` in its name,
the digest is one of its own, and the text is their checksum. -/
theorem parseChecksum_eq_ok_iff {value : String} {e : Expected} :
    r.parseChecksum value = .ok e ↔
      e.hasher ∈ r.registry.hashers ∧ '-' ∉ e.hasher.name.toList ∧
        e.hasher.validate e.hash = .ok () ∧ e.hasher.sri e.hash = .ok value := by
  have hoption : r.parseChecksum value = .ok e ↔ (r.parseChecksum value).toOption = some e := by
    cases r.parseChecksum value with
    | ok found => simp [Except.toOption]
    | error cause => simp [Except.toOption]
  rw [hoption, parseChecksum_iff]
  constructor
  · rintro ⟨algorithm, hparse, hname, hvalid⟩
    obtain ⟨hmem, rfl⟩ := Registry.getByName_eq_ok_iff.1 hname
    obtain ⟨hdash, raw, rfl, hhash⟩ := Sri.parse_eq_ok_iff.1 hparse
    dsimp only at hhash
    rw [Hasher.sri, hhash, Sri.encode_hex]
    exact ⟨hmem, hdash, hhash ▸ hvalid, rfl⟩
  · rintro ⟨hmem, hdash, hvalid, hsri⟩
    obtain ⟨raw, hhash, hwritten⟩ := Hasher.exists_sri hvalid
    obtain rfl := Except.ok.inj (hwritten.symm.trans hsri)
    exact ⟨e.hasher.name, Sri.parse_eq_ok_iff.2 ⟨hdash, raw, rfl, hhash⟩,
      Registry.getByName_eq_ok_iff.2 ⟨hmem, rfl⟩, hvalid⟩

/-- The checksums of a hasher with a `-` in its name are refused. -/
theorem parseChecksum_of_dash {h : Hasher} (hdash : '-' ∈ h.name.toList) {hash value : String}
    (hvalid : h.validate hash = .ok ()) (hsri : h.sri hash = .ok value) :
    ∃ digest cause, r.parseChecksum value = .error (.sri (.base64 digest cause)) := by
  obtain ⟨raw, -, hwritten⟩ := Hasher.exists_sri hvalid
  obtain rfl := Except.ok.inj (hwritten.symm.trans hsri)
  obtain ⟨digest, cause, hparse⟩ := Sri.parse_of_dash hdash raw
  refine ⟨digest, cause, ?_⟩
  rw [parseChecksum, hparse]

/-- The texts that are read are the checksums of registered hashers without a `-` in their names.
Every digest of a registered hasher has a checksum; that is read as the hasher and the digest if
there is no `-` in the name, and if there is one, it is refused, for what stands behind the first
`-` is not base 64. -/
theorem checksum_names_hasher_unless_dash (r : Resolver) :
    (∀ (value : String) (e : Expected), r.parseChecksum value = .ok e ↔
      e.hasher ∈ r.registry.hashers ∧ '-' ∉ e.hasher.name.toList ∧
        e.hasher.validate e.hash = .ok () ∧ e.hasher.sri e.hash = .ok value) ∧
    (∀ h ∈ r.registry.hashers, ∀ hash : String, h.validate hash = .ok () →
      ∃ value, h.sri hash = .ok value ∧
        ('-' ∉ h.name.toList → r.parseChecksum value = .ok ⟨h, hash⟩) ∧
        ('-' ∈ h.name.toList →
          ∃ digest cause, r.parseChecksum value = .error (.sri (.base64 digest cause)))) := by
  refine ⟨fun value e => parseChecksum_eq_ok_iff, fun h hmem hash hvalid => ?_⟩
  obtain ⟨raw, -, hsri⟩ := Hasher.exists_sri hvalid
  refine ⟨_, hsri, fun hdash => ?_, fun hdash => parseChecksum_of_dash hdash hvalid hsri⟩
  exact parseChecksum_eq_ok_iff.2 ⟨hmem, hdash, hvalid, hsri⟩

/-- Two hashers are registered, one of them with a `-` in its name.  The checksum that is written of
each for a digest of its own is read as the one of them, and refused of the other. -/
theorem checksum_names_hasher_unless_dash_of_two :
    let plain := Hasher.ofAlgorithm .md5 .md5
    let dashed : Hasher := ⟨.sha256, "sha-256", .sha256, "sha-256"⟩
    ∃ registry, Registry.ofList [plain, dashed] = .ok registry ∧
      (∃ value, plain.sri plain.empty = .ok value ∧
        (⟨registry, {}⟩ : Resolver).parseChecksum value = .ok ⟨plain, plain.empty⟩) ∧
      ∃ value, dashed.sri dashed.empty = .ok value ∧
        ∃ digest cause, (⟨registry, {}⟩ : Resolver).parseChecksum value =
          .error (.sri (.base64 digest cause)) := by
  intro plain dashed
  obtain ⟨registry, hregistry⟩ : ∃ registry, Registry.ofList [plain, dashed] = .ok registry :=
    ⟨_, rfl⟩
  obtain ⟨-, hperm⟩ := Registry.ofList_eq_ok hregistry
  have hplain : plain ∈ registry.hashers := hperm.mem_iff.2 (by simp)
  have hdashed : dashed ∈ registry.hashers := hperm.mem_iff.2 (by simp)
  obtain ⟨-, hresolved⟩ := checksum_names_hasher_unless_dash ⟨registry, {}⟩
  obtain ⟨value, hsri, hread, -⟩ := hresolved plain hplain _ plain.validate_empty
  obtain ⟨value', hsri', -, hrefused⟩ := hresolved dashed hdashed _ dashed.validate_empty
  exact ⟨registry, hregistry, ⟨value, hsri, hread (by decide)⟩, value', hsri',
    hrefused (by decide)⟩

/-- SHA-256 may be registered as `sha-256`; the checksum of a digest of it is then read up to the
first `-`, and refused. -/
theorem checksum_of_dashed_name_refused :
    let h : Hasher := ⟨.sha256, "sha-256", .sha256, "sha-256"⟩
    let hash := "2cf24dba5fb0a30e26e83b2ac5b9e29e1b161e5c1fa7425e73043362938b9824"
    let value := "sha-256-LPJNul+wow4m6DsqxbninhsWHlwfp0JecwQzYpOLmCQ="
    ∃ registry, Registry.ofList [h] = .ok registry ∧ h ∈ registry.hashers ∧
      h.validate hash = .ok () ∧ h.sri hash = .ok value ∧
      (⟨registry, {}⟩ : Resolver).parseChecksum value = .error (.sri
        (.base64 "256-LPJNul+wow4m6DsqxbninhsWHlwfp0JecwQzYpOLmCQ=" (.invalidSymbol 0x2d 3))) :=
  ⟨_, rfl, by decide, by decide +kernel, by decide +kernel, by decide +kernel⟩

end Resolver

end AssetCache
