import AssetCache.Proofs.Text.Utf8

/-!
# Reading texts from octets

`Spelled` is the grammar of one character: which octets may stand in it, and the number that they
stand for.  It rules out overlong forms, surrogates and numbers above U+10FFFF.  Both directions go
through it: the octets of a character are spelled so, and what is read at the front of octets is
spelled there.

Results:
1. `octets_of_spelled`, `spelled_of_octets`: what is spelled are the octets of characters.
2. `piece_of_spelled`, `piece_cases`: a character is read where one is spelled, and nowhere else.
3. `decode?_eq_some_iff`: of all octets, those of a text are read, and as that text.
-/

namespace AssetCache.Utf8

/-! ## The octets of a character -/

/-- The numbers of characters: those of surrogates are left out. -/
theorem toNat_bounds (c : Char) : c.toNat < 0xd800 ∨ 0xe000 ≤ c.toNat ∧ c.toNat < 0x110000 := by
  have hval : c.val.toNat = c.toNat := rfl
  have hvalid := c.valid
  simp only [UInt32.isValidChar, Nat.isValidChar] at hvalid
  omega

theorem toNat_ofNat {v : Nat} (h : v < 0xd800 ∨ 0xe000 ≤ v ∧ v < 0x110000) :
    (Char.ofNat v).toNat = v := by
  have hvalid : v.isValidChar := by
    unfold Nat.isValidChar
    omega
  unfold Char.ofNat
  rw [dif_pos hvalid]
  rfl

theorem octets_of_two {c : Char} (h : 0x80 ≤ c.toNat) (h' : c.toNat < 0x800) :
    String.utf8EncodeChar c =
      [UInt8.ofNat (c.toNat / 64 + 192), UInt8.ofNat (c.toNat % 64 + 128)] := by
  have hval : c.val.toNat = c.toNat := rfl
  have hhigh : c.toNat / 64 % 32 = c.toNat / 64 := Nat.mod_eq_of_lt (by omega)
  unfold String.utf8EncodeChar
  dsimp only
  rw [hval, if_neg (by omega), if_pos (by omega), hhigh]

theorem octets_of_three {c : Char} (h : 0x800 ≤ c.toNat) (h' : c.toNat < 0x10000) :
    String.utf8EncodeChar c =
      [UInt8.ofNat (c.toNat / 4096 + 224), UInt8.ofNat (c.toNat / 64 % 64 + 128),
        UInt8.ofNat (c.toNat % 64 + 128)] := by
  have hval : c.val.toNat = c.toNat := rfl
  have hhigh : c.toNat / 4096 % 16 = c.toNat / 4096 := Nat.mod_eq_of_lt (by omega)
  unfold String.utf8EncodeChar
  dsimp only
  rw [hval, if_neg (by omega), if_neg (by omega), if_pos (by omega), hhigh]

theorem octets_of_four {c : Char} (h : 0x10000 ≤ c.toNat) :
    String.utf8EncodeChar c =
      [UInt8.ofNat (c.toNat / 262144 + 240), UInt8.ofNat (c.toNat / 4096 % 64 + 128),
        UInt8.ofNat (c.toNat / 64 % 64 + 128), UInt8.ofNat (c.toNat % 64 + 128)] := by
  have hval : c.val.toNat = c.toNat := rfl
  have hbounds := toNat_bounds c
  have hhigh : c.toNat / 262144 % 8 = c.toNat / 262144 := Nat.mod_eq_of_lt (by omega)
  unfold String.utf8EncodeChar
  dsimp only
  rw [hval, if_neg (by omega), if_neg (by omega), if_neg (by omega), hhigh]

/-! ## Spelling -/

theorem isContinuation_iff {b : UInt8} :
    isContinuation b = true ↔ 0x80 ≤ b.toNat ∧ b.toNat < 0xc0 := by
  simp only [isContinuation, Bool.and_eq_true, decide_eq_true_eq, UInt8.le_iff_toNat_le,
    UInt8.reduceToNat]
  omega

theorem isSecond_iff {first second : UInt8} :
    isSecond first second = true ↔
      0x80 ≤ second.toNat ∧ second.toNat < 0xc0 ∧
        (first.toNat = 0xe0 → 0xa0 ≤ second.toNat) ∧ (first.toNat = 0xed → second.toNat < 0xa0) ∧
        (first.toNat = 0xf0 → 0x90 ≤ second.toNat) ∧
        (first.toNat = 0xf4 → second.toNat < 0x90) := by
  simp only [isSecond, Bool.and_eq_true, Bool.or_eq_true, isContinuation_iff, bne_iff_ne, ne_eq,
    decide_eq_true_eq, UInt8.le_iff_toNat_le, ← UInt8.toNat_inj, UInt8.reduceToNat]
  omega

/-- The octets of one character, the first apart from the others, and its number. -/
inductive Spelled : UInt8 → Bytes → Nat → Prop
  | one {a : UInt8} : a.toNat < 0x80 → Spelled a [] a.toNat
  | two {a b : UInt8} : 0xc2 ≤ a.toNat → a.toNat < 0xe0 → isContinuation b = true →
      Spelled a [b] (a.toNat % 32 * 64 + low b)
  | three {a b c : UInt8} : 0xe0 ≤ a.toNat → a.toNat < 0xf0 → isSecond a b = true →
      isContinuation c = true → Spelled a [b, c] ((a.toNat % 16 * 64 + low b) * 64 + low c)
  | four {a b c d : UInt8} : 0xf0 ≤ a.toNat → a.toNat < 0xf5 → isSecond a b = true →
      isContinuation c = true → isContinuation d = true →
      Spelled a [b, c, d] (((a.toNat % 8 * 64 + low b) * 64 + low c) * 64 + low d)

theorem Spelled.of_eq {a : UInt8} {more : Bytes} {v w : Nat} (h : Spelled a more v) (hvw : v = w) :
    Spelled a more w :=
  hvw ▸ h

/-- The octet of a character behind its first one that carries these six bits. -/
theorem toNat_trail (v : Nat) : (UInt8.ofNat (v % 64 + 128)).toNat = v % 64 + 128 :=
  UInt8.toNat_ofNat_of_lt' (show _ < 256 by omega)

theorem isContinuation_trail (v : Nat) : isContinuation (UInt8.ofNat (v % 64 + 128)) = true := by
  rw [isContinuation_iff, toNat_trail]
  omega

theorem low_trail (v : Nat) : low (UInt8.ofNat (v % 64 + 128)) = v % 64 := by
  rw [low, toNat_trail]
  omega

/-- Every character is spelled. -/
theorem spelled_of_octets {c : Char} {a : UInt8} {more : Bytes}
    (h : String.utf8EncodeChar c = a :: more) : Spelled a more c.toNat := by
  have hbounds := toNat_bounds c
  by_cases hone : c.toNat < 0x80
  · rw [octets_of_ascii hone] at h
    obtain ⟨rfl, rfl⟩ := List.cons.inj h
    have ha : (UInt8.ofNat c.toNat).toNat = c.toNat :=
      UInt8.toNat_ofNat_of_lt' (show _ < 256 by omega)
    have hspelled := Spelled.one (a := UInt8.ofNat c.toNat) (by omega)
    rwa [ha] at hspelled
  by_cases htwo : c.toNat < 0x800
  · rw [octets_of_two (by omega) htwo] at h
    obtain ⟨rfl, rfl⟩ := List.cons.inj h
    have ha : (UInt8.ofNat (c.toNat / 64 + 192)).toNat = c.toNat / 64 + 192 :=
      UInt8.toNat_ofNat_of_lt' (show _ < 256 by omega)
    have hspelled := Spelled.two (a := UInt8.ofNat (c.toNat / 64 + 192)) (by omega) (by omega)
      (isContinuation_trail c.toNat)
    rw [ha, low_trail] at hspelled
    exact hspelled.of_eq (by omega)
  by_cases hthree : c.toNat < 0x10000
  · rw [octets_of_three (by omega) hthree] at h
    obtain ⟨rfl, rfl⟩ := List.cons.inj h
    have ha : (UInt8.ofNat (c.toNat / 4096 + 224)).toNat = c.toNat / 4096 + 224 :=
      UInt8.toNat_ofNat_of_lt' (show _ < 256 by omega)
    have hsecond : isSecond (UInt8.ofNat (c.toNat / 4096 + 224))
        (UInt8.ofNat (c.toNat / 64 % 64 + 128)) = true := by
      rw [isSecond_iff, ha, toNat_trail]
      omega
    have hspelled := Spelled.three (by omega) (by omega) hsecond (isContinuation_trail c.toNat)
    rw [ha, low_trail, low_trail] at hspelled
    exact hspelled.of_eq (by omega)
  · rw [octets_of_four (by omega)] at h
    obtain ⟨rfl, rfl⟩ := List.cons.inj h
    have ha : (UInt8.ofNat (c.toNat / 262144 + 240)).toNat = c.toNat / 262144 + 240 :=
      UInt8.toNat_ofNat_of_lt' (show _ < 256 by omega)
    have hsecond : isSecond (UInt8.ofNat (c.toNat / 262144 + 240))
        (UInt8.ofNat (c.toNat / 4096 % 64 + 128)) = true := by
      rw [isSecond_iff, ha, toNat_trail]
      omega
    have hspelled := Spelled.four (by omega) (by omega) hsecond
      (isContinuation_trail (c.toNat / 64)) (isContinuation_trail c.toNat)
    rw [ha, low_trail, low_trail, low_trail] at hspelled
    exact hspelled.of_eq (by omega)

/-- No octet of a character outside ASCII is one of ASCII. -/
theorem le_of_mem_octets {c : Char} (h : 0x80 ≤ c.toNat) :
    ∀ b ∈ String.utf8EncodeChar c, 0x80 ≤ b.toNat := by
  cases hoctets : String.utf8EncodeChar c with
  | nil => exact nofun
  | cons a more =>
    have hspelled := spelled_of_octets hoctets
    generalize c.toNat = v at h hspelled
    cases hspelled with
    | one ha => omega
    | two hmin _ hb =>
      simp only [List.forall_mem_cons]
      exact ⟨by omega, (isContinuation_iff.1 hb).1, nofun⟩
    | three hmin _ hb hc =>
      simp only [List.forall_mem_cons]
      exact ⟨by omega, (isSecond_iff.1 hb).1, (isContinuation_iff.1 hc).1, nofun⟩
    | four hmin _ hb hc hd =>
      simp only [List.forall_mem_cons]
      exact ⟨by omega, (isSecond_iff.1 hb).1, (isContinuation_iff.1 hc).1,
        (isContinuation_iff.1 hd).1, nofun⟩

theorem ofNat_eq {b : UInt8} {n : Nat} (h : b.toNat = n) : UInt8.ofNat n = b := by
  rw [← h, UInt8.ofNat_toNat]

theorem low_eq {b : UInt8} (h : 0x80 ≤ b.toNat) (h' : b.toNat < 0xc0) : low b = b.toNat - 0x80 := by
  unfold low
  omega

/-- What is spelled is the octets of its character. -/
theorem octets_of_spelled {a : UInt8} {more : Bytes} {v : Nat} (h : Spelled a more v) :
    String.utf8EncodeChar (Char.ofNat v) = a :: more := by
  cases h with
  | one ha =>
    have hv := toNat_ofNat (v := a.toNat) (by omega)
    rw [octets_of_ascii (by omega), hv, UInt8.ofNat_toNat]
  | @two b hmin hmax hb =>
    rw [isContinuation_iff] at hb
    have hlow := low_eq (b := b) (by omega) (by omega)
    have hv := toNat_ofNat (v := a.toNat % 32 * 64 + low b) (by omega)
    rw [octets_of_two (by omega) (by omega), hv, ofNat_eq (b := a) (by omega),
      ofNat_eq (b := b) (by omega)]
  | @three b c hmin hmax hb hc =>
    rw [isSecond_iff] at hb
    rw [isContinuation_iff] at hc
    have hlow := low_eq (b := b) (by omega) (by omega)
    have hlow' := low_eq (b := c) (by omega) (by omega)
    have hv := toNat_ofNat (v := (a.toNat % 16 * 64 + low b) * 64 + low c) (by omega)
    rw [octets_of_three (by omega) (by omega), hv, ofNat_eq (b := a) (by omega),
      ofNat_eq (b := b) (by omega), ofNat_eq (b := c) (by omega)]
  | @four b c d hmin hmax hb hc hd =>
    rw [isSecond_iff] at hb
    rw [isContinuation_iff] at hc hd
    have hlow := low_eq (b := b) (by omega) (by omega)
    have hlow' := low_eq (b := c) (by omega) (by omega)
    have hlow'' := low_eq (b := d) (by omega) (by omega)
    have hv := toNat_ofNat (v := ((a.toNat % 8 * 64 + low b) * 64 + low c) * 64 + low d) (by omega)
    rw [octets_of_four (by omega), hv, ofNat_eq (b := a) (by omega),
      ofNat_eq (b := b) (by omega), ofNat_eq (b := c) (by omega), ofNat_eq (b := d) (by omega)]

/-! ## Reading -/

/-- What is spelled at the front is read. -/
theorem piece_of_spelled {a : UInt8} {more : Bytes} {v : Nat} (h : Spelled a more v)
    (rest : Bytes) : piece a (more ++ rest) = (some (Char.ofNat v), more.length) := by
  simp only [piece, UInt8.lt_iff_toNat_lt, UInt8.reduceToNat]
  cases h with
  | one ha =>
    rw [if_pos ha]
    rfl
  | two hmin hmax hb =>
    rw [if_neg (by omega), if_neg (by omega), if_pos hmax]
    dsimp only [List.cons_append]
    rw [if_pos hb]
    rfl
  | three hmin hmax hb hc =>
    rw [if_neg (by omega), if_neg (by omega), if_neg (by omega), if_pos hmax]
    dsimp only [List.cons_append]
    rw [hb, hc]
    rfl
  | four hmin hmax hb hc hd =>
    rw [if_neg (by omega), if_neg (by omega), if_neg (by omega), if_neg (by omega), if_pos hmax]
    dsimp only [List.cons_append]
    rw [hb, hc, hd]
    rfl

/-- At the front of octets no character is read, or one that is spelled there. -/
theorem piece_cases (a : UInt8) (rest : Bytes) :
    (piece a rest).1 = none ∨ ∃ more v behind, Spelled a more v ∧ rest = more ++ behind ∧
      piece a rest = (some (Char.ofNat v), more.length) := by
  fun_cases piece a rest with
  | case1 _ hone => exact .inr ⟨[], _, rest, .one hone, rfl, rfl⟩
  | case3 _ hmin hmax b behind hb =>
    exact .inr ⟨[b], _, behind, .two (Nat.not_lt.1 hmin) hmax hb, rfl, rfl⟩
  | case8 _ _ hmin hmax b c behind hb hc =>
    rw [Bool.not_eq_true, Bool.not_eq_false'] at hb hc
    exact .inr ⟨[b, c], _, behind, .three (Nat.not_lt.1 hmin) hmax hb hc, rfl, rfl⟩
  | case14 _ _ _ hmin hmax b c d behind hb hc hd =>
    rw [Bool.not_eq_true, Bool.not_eq_false'] at hb hc hd
    exact .inr ⟨[b, c, d], _, behind, .four (Nat.not_lt.1 hmin) hmax hb hc hd, rfl, rfl⟩
  | case2 | case4 | case5 | case6 | case7 | case9 | case10 | case11 | case12 | case13 | case15
  | case16 | case17 | case18 => exact .inl rfl

theorem piecesFrom_zero (b : UInt8) (rest : Bytes) (done : List (Option Char)) :
    piecesFrom 0 (b :: rest) done = piecesFrom (piece b rest).2 rest ((piece b rest).1 :: done) :=
  rfl

theorem piecesFrom_eq (skip : Nat) (bytes : Bytes) (done : List (Option Char)) :
    piecesFrom skip bytes done = done.reverse ++ pieces (bytes.drop skip) := by
  induction bytes generalizing skip done with
  | nil => rw [List.drop_nil, pieces, piecesFrom, piecesFrom, List.reverse_nil, List.append_nil]
  | cons b rest ih =>
    cases skip with
    | zero =>
      have hfirst := ih (piece b rest).2 [(piece b rest).1]
      rw [List.drop_zero, pieces, piecesFrom_zero, piecesFrom_zero, hfirst, ih]
      simp
    | succ skip => rw [piecesFrom, ih, List.drop_succ_cons]

/-- The front is read first, and then what comes behind it. -/
theorem pieces_cons (b : UInt8) (rest : Bytes) :
    pieces (b :: rest) = (piece b rest).1 :: pieces (rest.drop (piece b rest).2) := by
  rw [pieces, piecesFrom_zero, piecesFrom_eq]
  rfl

theorem decode?_cons (b : UInt8) (rest : Bytes) :
    decode? (b :: rest) =
      (piece b rest).1.bind fun c => (decode? (rest.drop (piece b rest).2)).map (c :: ·) := by
  rw [decode?, pieces_cons, List.mapM_cons]
  cases (piece b rest).1 with
  | none => rfl
  | some c =>
    cases h : (pieces (rest.drop (piece b rest).2)).mapM id with
    | none => simp [decode?, h]
    | some text => simp [decode?, h]

theorem decode?_encode (text : List Char) : decode? (encode text) = some text := by
  induction text with
  | nil => rfl
  | cons c rest ih =>
    cases hoctets : String.utf8EncodeChar c with
    | nil => exact absurd hoctets String.utf8EncodeChar_ne_nil
    | cons a more =>
      have hpiece := piece_of_spelled (spelled_of_octets hoctets) (encode rest)
      rw [encode_cons, hoctets, List.cons_append, decode?_cons, hpiece, List.drop_left, ih,
        Char.ofNat_toNat]
      rfl

theorem eq_encode_of_decode? (bytes : Bytes) {text : List Char} (h : decode? bytes = some text) :
    bytes = encode text := by
  match bytes with
  | [] =>
    obtain rfl := Option.some.inj h
    rfl
  | b :: rest =>
    rw [decode?_cons] at h
    rcases piece_cases b rest with hnone | ⟨more, v, behind, hspelled, rfl, hpiece⟩
    · rw [hnone] at h
      exact nomatch h
    · rw [hpiece, Option.bind_some, List.drop_left] at h
      obtain ⟨others, hothers, rfl⟩ := Option.map_eq_some_iff.1 h
      rw [encode_cons, octets_of_spelled hspelled, List.cons_append,
        eq_encode_of_decode? behind hothers]
termination_by bytes.length

/-- Of all octets, those of texts are read, and as the texts. -/
theorem decode?_eq_some_iff {bytes : Bytes} {text : List Char} :
    decode? bytes = some text ↔ bytes = encode text :=
  ⟨eq_encode_of_decode? bytes, fun h => h ▸ decode?_encode text⟩

end AssetCache.Utf8
