import AssetCache.Proofs.Text.Utf8
import AssetCache.Text.Hex

/-!
# Reading hexadecimal

Results:
1. `decode_eq_ok_iff`: texts of digits in pairs are read, and no others; what is read of them is
   written as they are, in lower case.
2. `decode_encode`: a written form is read as what was written.
3. `exists_encode_iff`: which texts are written forms.
-/

namespace AssetCache.Hex

/-- A digit in either case. -/
def isDigit (c : Char) : Bool :=
  ('0' ≤ c && c ≤ '9') || ('a' ≤ c && c ≤ 'f') || ('A' ≤ c && c ≤ 'F')

/-- A text of digits in pairs. -/
def Paired (text : List Char) : Prop := text.length % 2 = 0 ∧ ∀ c ∈ text, isDigit c = true

instance (text : List Char) : Decidable (Paired text) :=
  decidable_of_iff (text.length % 2 = 0 ∧ text.all isDigit = true) (and_congr .rfl List.all_eq_true)

/-! ## Characters -/

theorem ascii_of_isDigit {c : Char} (h : isDigit c = true) : c.toNat < 128 := by
  simp only [isDigit, Bool.or_eq_true, Bool.and_eq_true, decide_eq_true_eq, Char.le_def,
    UInt32.le_iff_toNat_le] at h
  have hval : c.val.toNat = c.toNat := rfl
  have h9 : '9'.val.toNat = 57 := rfl
  have hf : 'f'.val.toNat = 102 := rfl
  have hF : 'F'.val.toNat = 70 := rfl
  omega

/-- A digit has the value of which it is the digit in lower case, and any other character none. -/
theorem value?_ascii : ∀ n < 128,
    if isDigit (Char.ofNat n) then
      (value? (UInt8.ofNat n)).any fun v => decide (v < 16 ∧ digit v = (Char.ofNat n).toLower)
    else value? (UInt8.ofNat n) = none := by
  decide +kernel

theorem value?_of_isDigit {c : Char} (h : isDigit c = true) :
    ∃ v, value? (UInt8.ofNat c.toNat) = some v ∧ v < 16 ∧ digit v = c.toLower := by
  have hc := value?_ascii c.toNat (ascii_of_isDigit h)
  rw [Char.ofNat_toNat, if_pos h] at hc
  cases hvalue : value? (UInt8.ofNat c.toNat) with
  | none => exact nomatch hvalue ▸ hc
  | some v =>
    rw [hvalue] at hc
    exact ⟨v, rfl, of_decide_eq_true hc⟩

/-- A character that is no digit begins with an octet that has no value. -/
theorem value?_of_not_isDigit {c : Char} (h : isDigit c = false) :
    ∃ b rest, String.utf8EncodeChar c = b :: rest ∧ value? b = none := by
  by_cases hascii : c.toNat < 128
  · have hc := value?_ascii c.toNat hascii
    rw [Char.ofNat_toNat, h, if_neg Bool.false_ne_true] at hc
    exact ⟨_, [], Utf8.octets_of_ascii hascii, hc⟩
  · obtain ⟨b, rest, hoctets, hb⟩ := Utf8.octets_of_other (Nat.not_lt.1 hascii)
    refine ⟨b, rest, hoctets, ?_⟩
    unfold value?
    simp only [Bool.and_eq_true, decide_eq_true_eq]
    rw [if_neg (by omega), if_neg (by omega), if_neg (by omega)]

theorem isDigit_of_isLowerDigit {c : Char} (h : isLowerDigit c = true) : isDigit c = true := by
  unfold isDigit
  rw [show (_ || _) = true from h]
  rfl

theorem toLower_of_isLowerDigit {c : Char} (h : isLowerDigit c = true) : c.toLower = c := by
  have hall : ∀ n < 128, isLowerDigit (Char.ofNat n) = true →
      (Char.ofNat n).toLower = Char.ofNat n := by decide +kernel
  have hc := hall c.toNat (ascii_of_isDigit (isDigit_of_isLowerDigit h))
  rw [Char.ofNat_toNat] at hc
  exact hc h

theorem isDigit_digit : ∀ n < 16, isDigit (digit n) = true := by decide

theorem isLowerDigit_digit : ∀ n < 16, isLowerDigit (digit n) = true := by decide

theorem toLower_digit : ∀ n < 16, (digit n).toLower = digit n := by decide

/-! ## Texts -/

theorem length_encodeChars (bytes : Bytes) : (encodeChars bytes).length = 2 * bytes.length := by
  induction bytes with
  | nil => rfl
  | cons b rest ih =>
    rw [encodeChars, List.flatMap_cons, List.length_append, List.length_cons]
    have hrest : (rest.flatMap digits).length = 2 * rest.length := ih
    have hpair : (digits b).length = 2 := rfl
    omega

theorem exists_digit_of_mem {bytes : Bytes} {c : Char} (h : c ∈ encodeChars bytes) :
    ∃ n < 16, c = digit n := by
  obtain ⟨b, -, hb⟩ := List.mem_flatMap.1 h
  have hlt := b.toNat_lt
  simp only [digits, List.mem_cons, List.not_mem_nil, or_false] at hb
  rcases hb with rfl | rfl
  · exact ⟨_, by omega, rfl⟩
  · exact ⟨_, by omega, rfl⟩

theorem isLowerDigit_encodeChars (bytes : Bytes) :
    ∀ c ∈ encodeChars bytes, isLowerDigit c = true := by
  intro c hc
  obtain ⟨n, hn, rfl⟩ := exists_digit_of_mem hc
  exact isLowerDigit_digit n hn

theorem paired_encodeChars (bytes : Bytes) : Paired (encodeChars bytes) := by
  refine ⟨by rw [length_encodeChars, Nat.mul_mod_right], fun c hc => ?_⟩
  obtain ⟨n, hn, rfl⟩ := exists_digit_of_mem hc
  exact isDigit_digit n hn

theorem toLower_encodeChars (bytes : Bytes) :
    (encodeChars bytes).map Char.toLower = encodeChars bytes := by
  refine (List.map_congr_left fun c hc => ?_).trans (List.map_id _)
  obtain ⟨n, hn, rfl⟩ := exists_digit_of_mem hc
  exact toLower_digit n hn

theorem digits_ofNat {x y : Nat} (hx : x < 16) (hy : y < 16) :
    digits (UInt8.ofNat (16 * x + y)) = [digit x, digit y] := by
  have hvalue : (UInt8.ofNat (16 * x + y)).toNat = 16 * x + y :=
    UInt8.toNat_ofNat_of_lt' (show _ < 256 by omega)
  have hhigh : (16 * x + y) / 16 = x := by omega
  have hlow : (16 * x + y) % 16 = y := by omega
  rw [digits, hvalue, hhigh, hlow]

theorem digit_injective : ∀ x < 16, ∀ y < 16, digit x = digit y → x = y := by decide +kernel

theorem encodeChars_injective {bytes bytes' : Bytes} (h : encodeChars bytes = encodeChars bytes') :
    bytes = bytes' := by
  induction bytes generalizing bytes' with
  | nil =>
    cases bytes' with
    | nil => rfl
    | cons => exact nomatch h
  | cons b rest ih =>
    cases bytes' with
    | nil => exact nomatch h
    | cons b' rest' =>
      have hb := b.toNat_lt
      have hb' := b'.toNat_lt
      obtain ⟨hhigh, htail⟩ := List.cons.inj h
      obtain ⟨hlow, hrest⟩ := List.cons.inj htail
      have hhigh := digit_injective _ (by omega) _ (by omega) hhigh
      have hlow := digit_injective _ (by omega) _ (by omega) hlow
      rw [UInt8.toNat_inj.1 (by omega : b.toNat = b'.toNat), ih hrest]

theorem encode_of_digits {text : List Char} (h : ∀ c ∈ text, isDigit c = true) :
    Utf8.encode text = text.map fun c => UInt8.ofNat c.toNat :=
  Utf8.encode_of_ascii fun c hc => ascii_of_isDigit (h c hc)

theorem length_of_digits {text : List Char} (h : ∀ c ∈ text, isDigit c = true) :
    (Utf8.encode text).length = text.length := by
  rw [encode_of_digits h, List.length_map]

/-- Digits in pairs are read. -/
theorem exists_decodePairs : ∀ (position : Nat) {text : List Char}, Paired text →
    ∃ bytes, decodePairs position (Utf8.encode text) = .ok bytes ∧
      encodeChars bytes = text.map Char.toLower
  | _, [], _ => ⟨[], rfl, rfl⟩
  | _, [_], h => absurd h.1 (by simp)
  | position, c :: d :: rest, ⟨heven, hdigits⟩ => by
    simp only [List.forall_mem_cons] at hdigits
    obtain ⟨hc, hd, hrest⟩ := hdigits
    have heven : rest.length % 2 = 0 := by
      simp only [List.length_cons] at heven
      omega
    obtain ⟨x, hx, hxlt, hxdigit⟩ := value?_of_isDigit hc
    obtain ⟨y, hy, hylt, hydigit⟩ := value?_of_isDigit hd
    obtain ⟨bytes, hbytes, hlower⟩ := exists_decodePairs (position + 2) ⟨heven, hrest⟩
    refine ⟨UInt8.ofNat (16 * x + y) :: bytes, ?_, ?_⟩
    · rw [Utf8.encode_cons, Utf8.encode_cons, Utf8.octets_of_ascii (ascii_of_isDigit hc),
        Utf8.octets_of_ascii (ascii_of_isDigit hd)]
      simp only [List.cons_append, List.nil_append, decodePairs, hx, hy, hbytes]
    · rw [encodeChars, List.flatMap_cons, digits_ofNat hxlt hylt, hxdigit, hydigit]
      exact congrArg (fun t => c.toLower :: d.toLower :: t) hlower

/-- Octets that are read have values, all of them. -/
theorem value?_of_decodePairs : ∀ {position : Nat} {text bytes : Bytes}, text.length % 2 = 0 →
    decodePairs position text = .ok bytes → ∀ b ∈ text, value? b ≠ none
  | _, [], _, _, _ => nofun
  | _, [_], _, heven, _ => absurd heven (by simp)
  | position, a :: b :: rest, bytes, heven, h => by
    have heven : rest.length % 2 = 0 := by
      simp only [List.length_cons] at heven
      omega
    unfold decodePairs at h
    split at h
    next => exact nomatch h
    next => exact nomatch h
    next x y hx hy =>
      split at h
      next found hrest =>
        have hvalues := value?_of_decodePairs heven hrest
        simp only [List.forall_mem_cons]
        exact ⟨hx ▸ nofun, hy ▸ nofun, hvalues⟩
      next => exact nomatch h

theorem exists_decode {text : List Char} (h : Paired text) :
    ∃ bytes, decode (Utf8.encode text) = .ok bytes ∧ encodeChars bytes = text.map Char.toLower := by
  have heven : ¬ (Utf8.encode text).length % 2 = 1 := by
    rw [length_of_digits h.2, h.1]
    decide
  unfold decode
  rw [if_neg heven]
  exact exists_decodePairs 0 h

theorem paired_of_decode {text : List Char} {bytes : Bytes}
    (h : decode (Utf8.encode text) = .ok bytes) : Paired text := by
  unfold decode at h
  split at h
  next => exact nomatch h
  next hodd =>
    have heven : (Utf8.encode text).length % 2 = 0 := by omega
    have hdigits : ∀ c ∈ text, isDigit c = true := by
      intro c hc
      cases hdigit : isDigit c with
      | true => rfl
      | false =>
        obtain ⟨b, rest, hoctets, hnone⟩ := value?_of_not_isDigit hdigit
        have hb : b ∈ Utf8.encode text := List.mem_flatMap.2 ⟨c, hc, hoctets ▸ List.mem_cons_self⟩
        exact absurd hnone (value?_of_decodePairs heven h b hb)
    rw [length_of_digits hdigits] at heven
    exact ⟨heven, hdigits⟩

theorem toList_encode (bytes : Bytes) : (encode bytes).toList = encodeChars bytes :=
  String.toList_ofList

theorem toList_toLower (text : String) : text.toLower.toList = text.toList.map Char.toLower :=
  String.toList_map

theorem encode_injective {bytes bytes' : Bytes} (h : encode bytes = encode bytes') :
    bytes = bytes' := by
  have hchars := String.toList_inj.2 h
  rw [toList_encode, toList_encode] at hchars
  exact encodeChars_injective hchars

/-- A text is read if it consists of digits in pairs, and then it is the written form of what is
read of it, but for the case of its letters. -/
theorem decode_eq_ok_iff {text : String} {bytes : Bytes} :
    decode (Utf8.ofString text) = .ok bytes ↔
      Paired text.toList ∧ encode bytes = text.toLower := by
  have hread (hpaired : Paired text.toList) :
      ∃ found, decode (Utf8.ofString text) = .ok found ∧ encode found = text.toLower := by
    obtain ⟨found, hfound, hlower⟩ := exists_decode hpaired
    refine ⟨found, hfound, String.toList_inj.1 ?_⟩
    rw [toList_encode, hlower, toList_toLower]
  constructor
  · intro h
    have hpaired : Paired text.toList := paired_of_decode h
    obtain ⟨found, hfound, hlower⟩ := hread hpaired
    obtain rfl := Except.ok.inj (h.symm.trans hfound)
    exact ⟨hpaired, hlower⟩
  · rintro ⟨hpaired, hlower⟩
    obtain ⟨found, hfound, hsame⟩ := hread hpaired
    rw [hfound, encode_injective (hsame.trans hlower.symm)]

/-- What was written is read. -/
theorem decode_encode (bytes : Bytes) : decode (Utf8.ofString (encode bytes)) = .ok bytes := by
  refine decode_eq_ok_iff.2 ⟨?_, String.toList_inj.1 ?_⟩
  · rw [toList_encode]
    exact paired_encodeChars bytes
  · rw [toList_toLower, toList_encode, toLower_encodeChars]

/-- The written forms are the texts of lower-case digits, two for each octet. -/
theorem exists_encode_iff {text : String} {n : Nat} :
    (∃ bytes, bytes.length = n ∧ text = encode bytes) ↔
      text.toList.length = 2 * n ∧ ∀ c ∈ text.toList, isLowerDigit c = true := by
  constructor
  · rintro ⟨bytes, rfl, rfl⟩
    rw [toList_encode]
    exact ⟨length_encodeChars bytes, isLowerDigit_encodeChars bytes⟩
  · rintro ⟨hlength, hdigits⟩
    have hpaired : Paired text.toList :=
      ⟨by omega, fun c hc => isDigit_of_isLowerDigit (hdigits c hc)⟩
    have hlower : text.toList.map Char.toLower = text.toList :=
      (List.map_congr_left fun c hc => toLower_of_isLowerDigit (hdigits c hc)).trans (List.map_id _)
    obtain ⟨bytes, -, hwritten⟩ := exists_decode hpaired
    rw [hlower] at hwritten
    have htwo := length_encodeChars bytes
    refine ⟨bytes, ?_, String.toList_inj.1 ?_⟩
    · rw [hwritten] at htwo
      omega
    · rw [toList_encode, hwritten]

end AssetCache.Hex
