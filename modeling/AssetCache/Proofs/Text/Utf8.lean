import AssetCache.Text.Utf8

/-!
# Octets of texts

Results:
1. `encode_injective`, `ofString_injective`: texts with the same octets are the same.
2. `octets_of_ascii`, `octets_of_other`: an ASCII character is one octet, its number; any other one
   begins with an octet that no ASCII character has.
-/

namespace AssetCache.Utf8

@[simp] theorem encode_cons (c : Char) (text : List Char) :
    encode (c :: text) = String.utf8EncodeChar c ++ encode text := rfl

@[simp] theorem encode_append (text text' : List Char) :
    encode (text ++ text') = encode text ++ encode text' := List.flatMap_append

theorem ofString_append (s s' : String) : ofString (s ++ s') = ofString s ++ ofString s' := by
  unfold ofString
  rw [String.toList_append, encode_append]

theorem encode_injective {text text' : List Char} (h : encode text = encode text') :
    text = text' := by
  have hbytes : text.utf8Encode = text'.utf8Encode := congrArg List.toByteArray h
  rw [← String.toByteArray_ofList, ← String.toByteArray_ofList] at hbytes
  exact String.ofList_injective (String.toByteArray_inj.1 hbytes)

theorem ofString_injective {s s' : String} (h : ofString s = ofString s') : s = s' :=
  String.toList_inj.1 (encode_injective h)

theorem octets_of_ascii {c : Char} (h : c.toNat < 128) :
    String.utf8EncodeChar c = [UInt8.ofNat c.toNat] := by
  have hsize : c.utf8Size = 1 := by
    rw [Char.utf8Size_eq_one_iff, UInt32.le_iff_toNat_le]
    exact Nat.le_of_lt_succ h
  rw [String.utf8EncodeChar_eq_singleton hsize]
  rfl

theorem octets_of_other {c : Char} (h : 128 ≤ c.toNat) :
    ∃ b rest, String.utf8EncodeChar c = b :: rest ∧ 128 ≤ b.toNat := by
  have hval : c.val.toNat = c.toNat := rfl
  -- The first octet of two, three and four carries the bits 110, 1110 and 11110 in front.
  fun_cases String.utf8EncodeChar c with
  | case1 => omega
  | case2 =>
    refine ⟨_, _, rfl, ?_⟩
    rw [UInt8.toNat_ofNat']
    omega
  | case3 =>
    refine ⟨_, _, rfl, ?_⟩
    rw [UInt8.toNat_ofNat']
    omega
  | case4 =>
    refine ⟨_, _, rfl, ?_⟩
    rw [UInt8.toNat_ofNat']
    omega

/-- An ASCII text has the numbers of its characters as octets. -/
theorem encode_of_ascii {text : List Char} (h : ∀ c ∈ text, c.toNat < 128) :
    encode text = text.map fun c => UInt8.ofNat c.toNat := by
  induction text with
  | nil => rfl
  | cons c rest ih =>
    rw [encode_cons, octets_of_ascii (h c List.mem_cons_self),
      ih fun d hd => h d (List.mem_cons_of_mem _ hd)]
    rfl

end AssetCache.Utf8
