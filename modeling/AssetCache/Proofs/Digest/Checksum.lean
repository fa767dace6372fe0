import AssetCache.Proofs.Text.Base64
import AssetCache.Proofs.Text.Hex
import AssetCache.Sri

/-!
# Reading and writing checksums

A name without a `-` and a digest have one written form as a checksum.  Names with a `-` are written
too, but what is written of them is read as another name, or not at all.

Results:
1. `parse_eq_ok_iff`: the texts that are read are the written forms, of names without a `-`.
2. `encode_eq_ok_iff`: the digests that are written are those of digits in pairs.
3. `parse_encode_exact`: reading and writing undo each other, but for the case of the digits.
-/

namespace AssetCache.Sri

theorem splitDash_eq_some_iff {text before after : List Char} :
    splitDash text = some (before, after) ↔ text = before ++ '-' :: after ∧ '-' ∉ before := by
  induction text generalizing before with
  | nil =>
    constructor
    · exact nofun
    · rintro ⟨h, -⟩
      simp at h
  | cons c rest ih =>
    by_cases hdash : c = '-'
    · subst hdash
      rw [splitDash, if_pos rfl]
      constructor
      · intro h
        obtain ⟨rfl, rfl⟩ := Prod.mk.inj (Option.some.inj h)
        exact ⟨rfl, List.not_mem_nil⟩
      · rintro ⟨h, hnot⟩
        cases before with
        | nil =>
          obtain ⟨-, rfl⟩ := List.cons.inj h
          rfl
        | cons d others =>
          obtain ⟨rfl, -⟩ := List.cons.inj h
          exact absurd List.mem_cons_self hnot
    · rw [splitDash, if_neg hdash]
      constructor
      · intro h
        obtain ⟨⟨others, tail⟩, hsplit, h⟩ := Option.map_eq_some_iff.1 h
        obtain ⟨rfl, rfl⟩ := Prod.mk.inj h
        obtain ⟨rfl, hnot⟩ := ih.1 hsplit
        exact ⟨rfl, List.not_mem_cons_of_ne_of_not_mem (Ne.symm hdash) hnot⟩
      · rintro ⟨h, hnot⟩
        cases before with
        | nil => exact absurd (List.cons.inj h).1 hdash
        | cons d others =>
          obtain ⟨rfl, hrest⟩ := List.cons.inj h
          rw [ih.2 ⟨hrest, fun hmem => hnot (List.mem_cons_of_mem _ hmem)⟩]
          rfl

theorem toList_written (algorithm : String) (raw : Bytes) :
    (algorithm ++ "-" ++ Base64.encode raw).toList =
      algorithm.toList ++ '-' :: Base64.encodeChars raw := by
  simp [Base64.encode]

/-- Of all texts, the written forms are read: a name without a `-`, a `-`, and a digest. -/
theorem parse_eq_ok_iff {value : String} {sri : Sri} :
    parse value = .ok sri ↔
      '-' ∉ sri.algorithm.toList ∧
        ∃ raw, value = sri.algorithm ++ "-" ++ Base64.encode raw ∧ sri.hex = Hex.encode raw := by
  constructor
  · intro h
    unfold parse at h
    split at h
    next => exact nomatch h
    next algorithm digest hsplit =>
      split at h
      next raw hraw =>
        obtain rfl := Except.ok.inj h
        obtain ⟨htext, hnot⟩ := splitDash_eq_some_iff.1 hsplit
        obtain rfl := Base64.decode_eq_ok_iff.1 hraw
        refine ⟨by rwa [String.toList_ofList], raw, String.toList_inj.1 ?_, rfl⟩
        rw [toList_written, String.toList_ofList, htext]
      next => exact nomatch h
  · obtain ⟨algorithm, hex⟩ := sri
    rintro ⟨hnot, raw, rfl, hhex⟩
    have hsplit := splitDash_eq_some_iff.2 ⟨toList_written algorithm raw, hnot⟩
    unfold parse
    rw [hsplit]
    dsimp only at hhex ⊢
    rw [Base64.decode_eq_ok_iff.2 rfl, String.ofList_toList, hhex]

/-- Digits in pairs are written, in either case, and nothing else is. -/
theorem encode_eq_ok_iff {algorithm digits value : String} :
    encode algorithm digits = .ok value ↔
      Hex.Paired digits.toList ∧
        ∃ raw, value = algorithm ++ "-" ++ Base64.encode raw ∧ Hex.encode raw = digits.toLower := by
  constructor
  · intro h
    unfold encode at h
    split at h
    next raw hraw =>
      obtain ⟨hpaired, hlower⟩ := Hex.decode_eq_ok_iff.1 hraw
      exact ⟨hpaired, raw, (Except.ok.inj h).symm, hlower⟩
    next => exact nomatch h
  · rintro ⟨hpaired, raw, rfl, hlower⟩
    rw [encode, Hex.decode_eq_ok_iff.2 ⟨hpaired, hlower⟩]

theorem encode_hex (algorithm : String) (raw : Bytes) :
    encode algorithm (Hex.encode raw) = .ok (algorithm ++ "-" ++ Base64.encode raw) := by
  rw [encode, Hex.decode_encode]

/-- Of all texts, those are read as checksums that are written of a name without a `-` and a digest.
What was read is written as it was; what was written of such a name is read as the digest in lower
case; and nothing but digits in pairs is written. -/
theorem parse_encode_exact :
    (∀ (value : String) (sri : Sri), parse value = .ok sri ↔
      '-' ∉ sri.algorithm.toList ∧
        ∃ raw, value = sri.algorithm ++ "-" ++ Base64.encode raw ∧ sri.hex = Hex.encode raw) ∧
    (∀ (value : String) (sri : Sri), parse value = .ok sri →
      encode sri.algorithm sri.hex = .ok value) ∧
    (∀ algorithm digits : String, '-' ∉ algorithm.toList → Hex.Paired digits.toList →
      ∃ value, encode algorithm digits = .ok value ∧
        parse value = .ok ⟨algorithm, digits.toLower⟩) ∧
    (∀ algorithm digits : String, ¬ Hex.Paired digits.toList →
      ∃ cause, encode algorithm digits = .error (.hex digits cause)) := by
  refine ⟨fun value sri => parse_eq_ok_iff, fun value sri h => ?_,
    fun algorithm digits hdash h => ?_, fun algorithm digits h => ?_⟩
  · obtain ⟨-, raw, rfl, hhex⟩ := parse_eq_ok_iff.1 h
    rw [hhex, encode_hex]
  · obtain ⟨raw, hraw, -⟩ := Hex.exists_decode h
    obtain ⟨-, hlower⟩ := Hex.decode_eq_ok_iff.1 hraw
    exact ⟨_, encode_eq_ok_iff.2 ⟨h, raw, rfl, hlower⟩,
      parse_eq_ok_iff.2 ⟨hdash, raw, rfl, hlower.symm⟩⟩
  · unfold encode
    split
    next raw hraw => exact absurd (Hex.paired_of_decode hraw) h
    next cause hcause => exact ⟨cause, rfl⟩

/-- A digest of two octets is read and written, and written of capital digits and read; of three
digits, none is. -/
theorem parse_encode_exact_of_two_octets :
    parse "sha256-a0s=" = .ok ⟨"sha256", "6b4b"⟩ ∧
    encode "sha256" "6b4b" = .ok "sha256-a0s=" ∧
    (∃ value, encode "sha256" "6B4B" = .ok value ∧ parse value = .ok ⟨"sha256", "6b4b"⟩) ∧
    ∃ cause, encode "sha256" "6B4" = .error (.hex "6B4" cause) := by
  obtain ⟨hread, hwritten, hcapital, hunpaired⟩ := parse_encode_exact
  have hparse : parse "sha256-a0s=" = .ok ⟨"sha256", "6b4b"⟩ :=
    (hread _ _).2 ⟨by decide, [0x6b, 0x4b], rfl, rfl⟩
  have hlower : "6B4B".toLower = "6b4b" :=
    String.toList_inj.1 ((Hex.toList_toLower "6B4B").trans rfl)
  have hboth := hcapital "sha256" "6B4B" (by decide) (by decide)
  rw [hlower] at hboth
  exact ⟨hparse, hwritten _ _ hparse, hboth,
    hunpaired "sha256" "6B4" (by decide)⟩

/-- The digest of two octets has one spelling: the bits of its last symbol that stand for nothing
have to be zeros. -/
example : parse "sha256-aGk=" = .ok ⟨"sha256", "6869"⟩ ∧
    parse "sha256-aGl=" = .error (.base64 "aGl=" (.invalidLastSymbol 0x6c 2)) :=
  ⟨rfl, rfl⟩

end AssetCache.Sri
