import AssetCache.Digest.Registry
import AssetCache.Proofs.Entry.InstanceKey
import AssetCache.Proofs.Store.ReadBack

/-!
# Results of actions under the keys of instances

The result of an action is kept under a digest of whatever hasher the instance uses, and a put of it
is refused under anything else.  The keys of instances with names are digests of SHA-256, whatever
hasher they use.  So they can be stored under hashers with digests of that size, and under no
others.

Results:
1. `put_succeeds`: a put of what can be verified succeeds where nobody else is writing.
2. `storable_of_validate`: a result can be kept under every digest.
3. `remapped_key_storable_iff_size_fits`: where it can be kept under the key of an instance.
-/

namespace AssetCache.Cache

variable {π ν : Type} {out : Surroundings π ν} {w : World π ν} {kind : EntryKind}
  {hasher : Hasher} {hash : String} {body : Reader} {blob : Bytes}

/-! ## Puts -/

theorem put_succeeds {size : Nat} (hvalidate : validate kind hasher hash size = .ok ())
    (hverify : verify kind hasher hash (some size) body = .ok blob)
    (hfree : Entry.blobPath kind hasher hash ∉ w.store.inFlight) :
    ((put kind hasher hash size body).run out w).1 = .ok () := by
  obtain ⟨t, hallows, hleads, -⟩ :=
    Operation.exists_history out (put kind hasher hash size body) w
  generalize ((put kind hasher hash size body).run out w).1 = result at hleads ⊢
  cases put_leads.1 hleads with
  | invalid e hinvalid => exact nomatch hvalidate.symm.trans hinvalid
  | empty => rfl
  | present => rfl
  | busy => exact absurd (Store.mem_inFlight_of_busy hallows.1) hfree
  | rejected e _ _ hrejected => exact nomatch hverify.symm.trans hrejected
  | stored => rfl

theorem run_put_of_invalid {size : Nat} {e : CacheError}
    (h : validate kind hasher hash size = .error e) :
    (put kind hasher hash size body).run out w = (.error e, w) := by
  unfold put
  rw [h]
  rfl

/-! ## Hashes of results -/

theorem validate_ac {size : Nat} (hsize : size ≠ 0) :
    validate .ac hasher hash size = (hasher.validate hash).mapError .validation := by
  have hdigest : hasher.validateDigest hash size = hasher.validate hash := if_neg hsize
  unfold validate
  rw [hdigest]
  cases hasher.validate hash with
  | ok => rfl
  | error => rfl

/-- A result can be kept under a hash: it can be put, and then what was put is given, whether its
size is asked for or no size is. -/
structure Storable (out : Surroundings π ν) (w : World π ν) (hasher : Hasher) (hash : String)
    (body : Reader) (blob : Bytes) : Prop where
  put : ((put .ac hasher hash blob.length body).run out w).1 = .ok ()
  given : ∀ size : Option Nat, fits size blob = true →
    ((get .ac hasher hash size 0).run out
      ((Cache.put .ac hasher hash blob.length body).run out w).2).1 =
        .ok (some (.ofBytes blob, .known blob.length))

/-- A put of a result is refused, and changes nothing. -/
def Refused (out : Surroundings π ν) (w : World π ν) (hasher : Hasher) (hash : String)
    (body : Reader) (size : Nat) (e : DigestError) : Prop :=
  (put .ac hasher hash size body).run out w = (.error (.validation e), w)

/-- A body that can be read to its end, and has octets, but not more than sizes can tell. -/
structure Readable (body : Reader) (blob : Bytes) : Prop where
  read : body.readAll = .ok blob
  ne_nil : blob ≠ []
  length_le : blob.length ≤ Decimal.largest

theorem Readable.length_ne_zero (h : Readable body blob) : blob.length ≠ 0 :=
  fun hzero => h.ne_nil (List.eq_nil_of_length_eq_zero hzero)

/-- Where nothing is being written, a result can be kept under every digest. -/
theorem storable_of_validate (hidle : w.store.inFlight = []) (hbody : Readable body blob)
    (hvalidate : hasher.validate hash = .ok ()) : Storable out w hasher hash body blob := by
  have hvalid : validate .ac hasher hash blob.length = .ok () := by
    rw [validate_ac hbody.length_ne_zero, hvalidate]
    rfl
  have hverify : verify .ac hasher hash (some blob.length) body = .ok blob :=
    verify_of_readAll nofun hbody.read (fun n hn => (Option.some.inj hn).symm) hbody.length_le
  have hput : ((Cache.put .ac hasher hash blob.length body).run out w).1 = .ok () :=
    put_succeeds hvalid hverify (hidle ▸ List.not_mem_nil)
  refine ⟨hput, fun size hfits => ?_⟩
  -- What the put left is what was verified of its body: a digest of its own is not looked at.
  obtain ⟨found, hleft⟩ := left_of_put hput
  cases hleft with
  | kept hcas => exact nomatch hcas
  | stored _ hheld hfound =>
    obtain rfl := Except.ok.inj (hverify.symm.trans hfound)
    exact (get_of_held hheld).trans ((serve_start hash size blob).trans (if_pos hfits))

theorem refused_of_validate {e : DigestError} (hbody : Readable body blob)
    (hvalidate : hasher.validate hash = .error e) :
    Refused out w hasher hash body blob.length e := by
  refine run_put_of_invalid ?_
  rw [validate_ac hbody.length_ne_zero, hvalidate]
  rfl

/-! ## Keys of instances -/

variable {key name : String}

/-- Under the key of an instance, a result can be kept by a hasher with digests of the size of
SHA-256. -/
theorem storable_of_remapKey (hidle : w.store.inFlight = []) (hbody : Readable body blob)
    (hname : name ≠ "") (hsize : hasher.algorithm = .sha256 ∨ hasher.algorithm = .blake3) :
    Storable out w hasher (Entry.remapKey key name) body blob := by
  refine storable_of_validate hidle hbody ?_
  rw [Entry.validate_remapKey hasher key hname]
  exact if_pos (Digest.Algorithm.size_eq_sha256_iff.2 hsize)

/-- Where nothing is being written, a result can be kept under the key of its action; and under the
key of the instance if that is the same, having no name, or if the hasher has digests of the size of
SHA-256.  Any other hasher refuses it for its length. -/
theorem remapped_key_storable_iff_size_fits (out : Surroundings π ν) (w : World π ν)
    (hidle : w.store.inFlight = []) (hbody : Readable body blob)
    (hkey : hasher.validate key = .ok ()) (name : String) :
    Storable out w hasher key body blob ∧
    (name = "" ∨ hasher.algorithm = .sha256 ∨ hasher.algorithm = .blake3 →
      Storable out w hasher (Entry.remapKey key name) body blob) ∧
    (name ≠ "" → hasher.algorithm ≠ .sha256 → hasher.algorithm ≠ .blake3 →
      Refused out w hasher (Entry.remapKey key name) body blob.length
        (.invalidLength hasher.name 64 (hasher.size * 2))) := by
  have hown : Storable out w hasher key body blob := storable_of_validate hidle hbody hkey
  refine ⟨hown, fun hfits => ?_, fun hname hsha hblake => ?_⟩
  · by_cases hname : name = ""
    · subst hname
      exact hown
    · exact storable_of_remapKey hidle hbody hname (hfits.resolve_left hname)
  · have hsize : hasher.size ≠ Digest.Algorithm.sha256.size := fun hsize =>
      (Digest.Algorithm.size_eq_sha256_iff.1 hsize).elim hsha hblake
    refine refused_of_validate hbody ?_
    rw [Entry.validate_remapKey hasher key hname]
    exact if_neg hsize

/-- A result is kept under a digest of MD5, and refused under the key that an instance makes of it.
Under one that it makes of a digest of BLAKE3 it is kept. -/
theorem remapped_key_storable_of_blake3_and_not_md5 :
    let out : Surroundings Unit Unit := ⟨.absent, ⟨fun _ s => (.error (.client "no network"), s)⟩⟩
    let w : World Unit Unit := ⟨.empty, (), (), []⟩
    let md5 := Hasher.ofAlgorithm .md5 .md5
    let blake3 := Hasher.ofAlgorithm .blake3 .blake3
    let blob := Utf8.ofString "result"
    let body : Reader := ⟨[Utf8.ofString "res", Utf8.ofString "ult"], none⟩
    (w.store.inFlight = [] ∧ Readable body blob ∧ md5.validate md5.empty = .ok () ∧
      blake3.validate blake3.empty = .ok ()) ∧
    Storable out w md5 md5.empty body blob ∧
    Storable out w blake3 (Entry.remapKey blake3.empty "main") body blob ∧
    Refused out w md5 (Entry.remapKey md5.empty "main") body 6 (.invalidLength "md5" 64 32) := by
  intro out w md5 blake3 blob body
  have hbody : Readable body blob := ⟨by decide, by decide, by decide⟩
  have hmd5 := md5.validate_empty
  have hblake := blake3.validate_empty
  obtain ⟨hown, -, hrefused⟩ :=
    remapped_key_storable_iff_size_fits out w rfl hbody hmd5 "main"
  obtain ⟨-, hkept, -⟩ :=
    remapped_key_storable_iff_size_fits out w rfl hbody hblake "main"
  exact ⟨⟨rfl, hbody, hmd5, hblake⟩, hown, hkept (.inr (.inr rfl)),
    hrefused (by decide) nofun nofun⟩

/-- One of the built-in hashers refuses the key that an instance makes of a digest of its own. -/
theorem remapped_key_not_storable :
    ∃ hasher ∈ Registry.standard.hashers, ∃ key name : String, hasher.validate key = .ok () ∧
      ∃ blob : Bytes, blob ≠ [] ∧ ∀ (π ν : Type) (out : Surroundings π ν) (w : World π ν),
        ¬ Storable out w hasher (Entry.remapKey key name) (.ofBytes blob) blob := by
  refine ⟨.ofAlgorithm .md5 .md5, by decide, Digest.Algorithm.md5.emptyHash, "main",
    Hasher.validate_empty _, Utf8.ofString "result", by decide, ?_⟩
  intro π ν out w hstorable
  have hname : "main" ≠ "" := by decide
  have hinvalid := Entry.validate_remapKey (.ofAlgorithm .md5 .md5)
    Digest.Algorithm.md5.emptyHash hname
  have hbody : Readable (.ofBytes (Utf8.ofString "result")) (Utf8.ofString "result") :=
    ⟨Reader.readAll_ofBytes _, by decide, by decide⟩
  have hrefused : Refused out w _ _ _ _ _ := refused_of_validate hbody hinvalid
  exact nomatch hstorable.put.symm.trans (congrArg Prod.fst hrefused)

end AssetCache.Cache
