import AssetCache.Proofs.Text.Utf8
import AssetCache.Text.Base64

/-!
# Reading base 64

A written form is some whole groups of four symbols and a last group, which may end in one or two
`=`.  Whole groups stand for their octets one to one (`sextets` and `joinQuads`).  A last group of
four octets that is accepted is the written form of one, two or three octets.

Results:
1. `decode_octets`: a written form is read as what was written.
2. `eq_of_decode`: nothing else is read.
3. `decode_eq_ok_iff`: of all texts, reading accepts exactly those that writing produces.
-/

namespace AssetCache.Base64

/-! ## Symbols -/

/-- The octet of a symbol. -/
def octet (n : Nat) : UInt8 := UInt8.ofNat (symbol n).toNat

theorem value?_octet : ∀ n < 64, value? (octet n) = some n := by decide +kernel

theorem octet_ne_pad : ∀ n < 64, octet n ≠ pad := by decide +kernel

theorem symbol_ascii : ∀ n < 64, (symbol n).toNat < 128 := by decide +kernel

theorem symbol_of_value? {b : UInt8} {n : Nat} (h : value? b = some n) : n < 64 ∧ octet n = b := by
  have hall : ∀ k < 256, (value? (UInt8.ofNat k)).all
      fun n => decide (n < 64 ∧ octet n = UInt8.ofNat k) := by decide +kernel
  have hb := hall b.toNat b.toNat_lt
  rw [UInt8.ofNat_toNat, h] at hb
  exact of_decide_eq_true hb

/-! ## Whole groups -/

theorem length_lt_three {α : Type} {xs : List α}
    (h : ∀ a b c rest, xs = a :: b :: c :: rest → False) : xs.length < 3 := by
  rcases xs with _ | ⟨a, _ | ⟨b, _ | ⟨c, rest⟩⟩⟩
  · simp
  · simp
  · simp
  · exact absurd rfl (h a b c rest)

theorem length_lt_four {α : Type} {xs : List α}
    (h : ∀ a b c d rest, xs = a :: b :: c :: d :: rest → False) : xs.length < 4 := by
  cases xs with
  | nil => simp
  | cons x xs =>
    have htail : xs.length < 3 :=
      length_lt_three fun a b c rest heq => h x a b c rest (congrArg (x :: ·) heq)
    exact Nat.succ_lt_succ htail

/-- The values of the symbols that three octets each are written as; a short rest is left out. -/
def sextets : Bytes → List Nat
  | a :: b :: c :: rest =>
    a.toNat / 4 :: (a.toNat % 4 * 16 + b.toNat / 16) :: (b.toNat % 16 * 4 + c.toNat / 64) ::
      c.toNat % 64 :: sextets rest
  | _ => []

theorem sextets_lt (bytes : Bytes) : ∀ n ∈ sextets bytes, n < 64 := by
  fun_induction sextets bytes with
  | case1 a b c rest ih =>
    have ha := a.toNat_lt
    have hb := b.toNat_lt
    have hc := c.toNat_lt
    simp only [List.forall_mem_cons]
    exact ⟨by omega, by omega, by omega, by omega, ih⟩
  | case2 => exact nofun

theorem length_sextets (bytes : Bytes) : (sextets bytes).length = bytes.length / 3 * 4 := by
  fun_induction sextets bytes with
  | case1 a b c rest ih =>
    simp only [List.length_cons, ih]
    omega
  | case2 bytes hshort =>
    have hlength := length_lt_three hshort
    simp only [List.length_nil]
    omega

theorem encodeChars_append {front : Bytes} (h : front.length % 3 = 0) (rest : Bytes) :
    encodeChars (front ++ rest) = (sextets front).map symbol ++ encodeChars rest := by
  fun_induction sextets front with
  | case1 a b c front ih =>
    have hfront : front.length % 3 = 0 := by
      simp only [List.length_cons] at h
      omega
    simp only [List.cons_append, encodeChars, List.map_cons, ih hfront]
  | case2 front hshort =>
    have hlength := length_lt_three hshort
    obtain rfl : front = [] := List.eq_nil_of_length_eq_zero (by omega)
    rfl

theorem joinQuads_sextets {bytes : Bytes} (h : bytes.length % 3 = 0) :
    joinQuads (sextets bytes) = bytes := by
  fun_induction sextets bytes with
  | case1 a b c rest ih =>
    have ha := a.toNat_lt
    have hb := b.toNat_lt
    have hc := c.toNat_lt
    have hrest : rest.length % 3 = 0 := by
      simp only [List.length_cons] at h
      omega
    have h₁ : a.toNat / 4 * 4 + (a.toNat % 4 * 16 + b.toNat / 16) / 16 = a.toNat := by omega
    have h₂ : (a.toNat % 4 * 16 + b.toNat / 16) % 16 * 16 + (b.toNat % 16 * 4 + c.toNat / 64) / 4 =
        b.toNat := by omega
    have h₃ : (b.toNat % 16 * 4 + c.toNat / 64) % 4 * 64 + c.toNat % 64 = c.toNat := by omega
    simp only [joinQuads, h₁, h₂, h₃, UInt8.ofNat_toNat, ih hrest]
  | case2 bytes hshort =>
    have hlength := length_lt_three hshort
    obtain rfl : bytes = [] := List.eq_nil_of_length_eq_zero (by omega)
    rfl

theorem sextets_joinQuads {values : List Nat} (h : values.length % 4 = 0)
    (hlt : ∀ n ∈ values, n < 64) : sextets (joinQuads values) = values := by
  fun_induction joinQuads values with
  | case1 a b c d rest ih =>
    simp only [List.forall_mem_cons] at hlt
    obtain ⟨ha, hb, hc, hd, hrest⟩ := hlt
    have hlength : rest.length % 4 = 0 := by
      simp only [List.length_cons] at h
      omega
    have h₁ : (UInt8.ofNat (a * 4 + b / 16)).toNat = a * 4 + b / 16 :=
      UInt8.toNat_ofNat_of_lt' (show _ < 256 by omega)
    have h₂ : (UInt8.ofNat (b % 16 * 16 + c / 4)).toNat = b % 16 * 16 + c / 4 :=
      UInt8.toNat_ofNat_of_lt' (show _ < 256 by omega)
    have h₃ : (UInt8.ofNat (c % 4 * 64 + d)).toNat = c % 4 * 64 + d :=
      UInt8.toNat_ofNat_of_lt' (show _ < 256 by omega)
    simp only [sextets, h₁, h₂, h₃, ih hlength hrest, List.cons.injEq, and_true]
    exact ⟨by omega, by omega, by omega, by omega⟩
  | case2 values hshort =>
    have hlength := length_lt_four hshort
    obtain rfl : values = [] := List.eq_nil_of_length_eq_zero (by omega)
    rfl

theorem length_joinQuads (values : List Nat) :
    (joinQuads values).length = values.length / 4 * 3 := by
  fun_induction joinQuads values with
  | case1 a b c d rest ih =>
    simp only [List.length_cons, ih]
    omega
  | case2 values hshort =>
    have hlength := length_lt_four hshort
    simp only [List.length_nil]
    omega

theorem decodeSymbols_octets (offset : Nat) {values : List Nat} (hlt : ∀ n ∈ values, n < 64) :
    decodeSymbols offset (values.map octet) = .ok values := by
  induction values generalizing offset with
  | nil => rfl
  | cons n rest ih =>
    obtain ⟨hn, hrest⟩ := List.forall_mem_cons.1 hlt
    simp only [List.map_cons, decodeSymbols, value?_octet n hn, ih (offset + 1) hrest]

theorem octets_of_decodeSymbols {offset : Nat} {text : Bytes} {values : List Nat}
    (h : decodeSymbols offset text = .ok values) :
    text = values.map octet ∧ ∀ n ∈ values, n < 64 := by
  induction text generalizing offset values with
  | nil =>
    obtain rfl := Except.ok.inj h
    exact ⟨rfl, nofun⟩
  | cons b rest ih =>
    unfold decodeSymbols at h
    split at h
    next => exact nomatch h
    next n hvalue =>
      split at h
      next others hrest =>
        obtain rfl := Except.ok.inj h
        obtain ⟨hn, hb⟩ := symbol_of_value? hvalue
        obtain ⟨rfl, hlt⟩ := ih hrest
        exact ⟨by rw [List.map_cons, hb], List.forall_mem_cons.2 ⟨hn, hlt⟩⟩
      next => exact nomatch h

/-! ## The last group -/

/-- Behind a `=` there are only others. -/
theorem pads_of_decodeLast {start index first seen count : Nat} {text : Bytes}
    {symbols : List (UInt8 × Nat)}
    (h : decodeLast start index (some (first, seen)) text = .ok (symbols, count)) :
    symbols = [] ∧ ∃ more, count = seen + more ∧ text = List.replicate more pad := by
  induction text generalizing index seen with
  | nil =>
    obtain ⟨rfl, rfl⟩ := Prod.mk.inj (Except.ok.inj h)
    exact ⟨rfl, 0, rfl, rfl⟩
  | cons b rest ih =>
    unfold decodeLast at h
    split at h
    next hpad =>
      split at h
      next => exact nomatch h
      next =>
        obtain ⟨rfl, more, rfl, rfl⟩ := ih h
        exact ⟨rfl, more + 1, by omega, by rw [hpad, List.replicate_succ]⟩
    next => exact nomatch h

/-- A symbol's octet and its value. -/
def withOctet (n : Nat) : UInt8 × Nat := (octet n, n)

theorem of_decodeLast {start index count : Nat} {text : Bytes} {symbols : List (UInt8 × Nat)}
    (h : decodeLast start index none text = .ok (symbols, count)) :
    ∃ values : List Nat, symbols = values.map withOctet ∧ (∀ n ∈ values, n < 64) ∧
      text = values.map octet ++ List.replicate count pad := by
  induction text generalizing index symbols with
  | nil =>
    obtain ⟨rfl, rfl⟩ := Prod.mk.inj (Except.ok.inj h)
    exact ⟨[], rfl, nofun, rfl⟩
  | cons b rest ih =>
    unfold decodeLast at h
    split at h
    next hpad =>
      split at h
      next => exact nomatch h
      next =>
        obtain ⟨rfl, more, rfl, rfl⟩ := pads_of_decodeLast h
        exact ⟨[], rfl, nofun, by rw [hpad, Nat.add_comm, List.replicate_succ]; rfl⟩
    next =>
      cases hvalue : value? b with
      | none => exact nomatch hvalue ▸ h
      | some n =>
        rw [hvalue] at h
        dsimp only at h
        split at h
        next others found hrest =>
          obtain ⟨rfl, rfl⟩ := Prod.mk.inj (Except.ok.inj h)
          obtain ⟨hn, rfl⟩ := symbol_of_value? hvalue
          obtain ⟨values, rfl, hlt, rfl⟩ := ih hrest
          exact ⟨n :: values, rfl, List.forall_mem_cons.2 ⟨hn, hlt⟩, rfl⟩
        next => exact nomatch h

theorem decodeLast_pads (start first seen more : Nat) {index : Nat} (h : 2 ≤ index) :
    decodeLast start index (some (first, seen)) (List.replicate more pad) =
      .ok ([], seen + more) := by
  induction more generalizing index seen with
  | zero => rfl
  | succ more ih =>
    rw [List.replicate_succ, decodeLast, if_pos rfl, if_neg (by omega), ih _ (by omega),
      Nat.add_right_comm, Nat.add_assoc]

theorem decodeLast_octets (start count : Nat) {index : Nat} {values : List Nat}
    (hlt : ∀ n ∈ values, n < 64) (h : 2 ≤ index + values.length) :
    decodeLast start index none (values.map octet ++ List.replicate count pad) =
      .ok (values.map withOctet, count) := by
  induction values generalizing index with
  | nil =>
    cases count with
    | zero => rfl
    | succ count =>
      have hindex : 2 ≤ index := h
      rw [List.map_nil, List.nil_append, List.replicate_succ, decodeLast, if_pos rfl,
        if_neg (by omega), decodeLast_pads _ _ _ _ (by omega), Nat.add_comm]
      rfl
  | cons n rest ih =>
    obtain ⟨hn, hrest⟩ := List.forall_mem_cons.1 hlt
    have hmore : 2 ≤ index + 1 + rest.length := by
      rw [List.length_cons] at h
      omega
    rw [List.map_cons, List.cons_append, decodeLast, if_neg (octet_ne_pad n hn), value?_octet n hn,
      ih hrest hmore]
    rfl

/-- The octets of the written form of a byte string. -/
def octets (bytes : Bytes) : Bytes := (encodeChars bytes).map fun c => UInt8.ofNat c.toNat

theorem octets_append {front : Bytes} (h : front.length % 3 = 0) (rest : Bytes) :
    octets (front ++ rest) = (sextets front).map octet ++ octets rest := by
  unfold octets
  rw [encodeChars_append h, List.map_append, List.map_map]
  rfl

theorem octets_joinQuads {values : List Nat} (h : values.length % 4 = 0)
    (hlt : ∀ n ∈ values, n < 64) (rest : Bytes) :
    octets (joinQuads values ++ rest) = values.map octet ++ octets rest := by
  have hlength := length_joinQuads values
  rw [octets_append (by omega), sextets_joinQuads h hlt]

/-- Two to four symbols, filled up with `=`, are the written form of the octets that they are joined
to, for the bits that stand for nothing are zeros. -/
theorem octets_of_joinLast {start : Nat} {values : List Nat} {last : Bytes}
    (hlt : ∀ n ∈ values, n < 64) (hleast : 2 ≤ values.length) (hmost : values.length ≤ 4)
    (h : joinLast start (values.map withOctet) = .ok last) :
    values.map octet ++ List.replicate (4 - values.length) pad = octets last := by
  rcases values with _ | ⟨a, _ | ⟨b, _ | ⟨c, _ | ⟨d, _ | ⟨e, rest⟩⟩⟩⟩⟩
  · simp at hleast
  · simp at hleast
  · obtain ⟨ha, hb⟩ : a < 64 ∧ b < 64 := by simpa using hlt
    simp only [List.map_cons, List.map_nil, withOctet, joinLast] at h
    split at h
    next hzero =>
      obtain rfl := Except.ok.inj h
      have hfirst : (UInt8.ofNat (a * 4 + b / 16)).toNat = a * 4 + b / 16 :=
        UInt8.toNat_ofNat_of_lt' (show _ < 256 by omega)
      have h₁ : (a * 4 + b / 16) / 4 = a := by omega
      have h₂ : (a * 4 + b / 16) % 4 * 16 = b := by omega
      simp only [octets, encodeChars, hfirst, h₁, h₂]
      rfl
    next => exact nomatch h
  · obtain ⟨ha, hb, hc⟩ : a < 64 ∧ b < 64 ∧ c < 64 := by simpa using hlt
    simp only [List.map_cons, List.map_nil, withOctet, joinLast] at h
    split at h
    next hzero =>
      obtain rfl := Except.ok.inj h
      have hfirst : (UInt8.ofNat (a * 4 + b / 16)).toNat = a * 4 + b / 16 :=
        UInt8.toNat_ofNat_of_lt' (show _ < 256 by omega)
      have hsecond : (UInt8.ofNat (b % 16 * 16 + c / 4)).toNat = b % 16 * 16 + c / 4 :=
        UInt8.toNat_ofNat_of_lt' (show _ < 256 by omega)
      have h₁ : (a * 4 + b / 16) / 4 = a := by omega
      have h₂ : (a * 4 + b / 16) % 4 * 16 + (b % 16 * 16 + c / 4) / 16 = b := by omega
      have h₃ : (b % 16 * 16 + c / 4) % 16 * 4 = c := by omega
      simp only [octets, encodeChars, hfirst, hsecond, h₁, h₂, h₃]
      rfl
    next => exact nomatch h
  · obtain rfl : joinQuads [a, b, c, d] = last := Except.ok.inj h
    have hwhole := octets_joinQuads (by simp) hlt []
    rw [List.append_nil] at hwhole
    exact hwhole.symm
  · simp only [List.length_cons] at hmost
    omega

/-- The last group of a written form is read as the octets that it was written for. -/
theorem exists_decodeLast (start : Nat) {last : Bytes} (hpos : last ≠ [])
    (hmost : last.length ≤ 3) :
    ∃ (values : List Nat) (count : Nat), (∀ n ∈ values, n < 64) ∧ 2 ≤ values.length ∧
      count + values.length = 4 ∧ octets last = values.map octet ++ List.replicate count pad ∧
      joinLast start (values.map withOctet) = .ok last := by
  rcases last with _ | ⟨a, _ | ⟨b, _ | ⟨c, _ | ⟨d, rest⟩⟩⟩⟩
  · exact absurd rfl hpos
  · have ha := a.toNat_lt
    refine ⟨[a.toNat / 4, a.toNat % 4 * 16], 2, ?_, by simp, rfl, rfl, ?_⟩
    · simp only [List.forall_mem_cons]
      exact ⟨by omega, by omega, nofun⟩
    · have h₁ : a.toNat / 4 * 4 + a.toNat % 4 * 16 / 16 = a.toNat := by omega
      simp only [List.map_cons, List.map_nil, withOctet, joinLast, Nat.mul_mod_left, if_true, h₁,
        UInt8.ofNat_toNat]
  · have ha := a.toNat_lt
    have hb := b.toNat_lt
    refine ⟨[a.toNat / 4, a.toNat % 4 * 16 + b.toNat / 16, b.toNat % 16 * 4], 1, ?_, by simp, rfl,
      rfl, ?_⟩
    · simp only [List.forall_mem_cons]
      exact ⟨by omega, by omega, by omega, nofun⟩
    · have h₁ : a.toNat / 4 * 4 + (a.toNat % 4 * 16 + b.toNat / 16) / 16 = a.toNat := by omega
      have h₂ : (a.toNat % 4 * 16 + b.toNat / 16) % 16 * 16 + b.toNat % 16 * 4 / 4 = b.toNat := by
        omega
      simp only [List.map_cons, List.map_nil, withOctet, joinLast, Nat.mul_mod_left, if_true, h₁,
        h₂, UInt8.ofNat_toNat]
  · refine ⟨sextets [a, b, c], 0, sextets_lt _, by simp [sextets], rfl, rfl, ?_⟩
    have hjoin : joinQuads (sextets [a, b, c]) = [a, b, c] := joinQuads_sextets (by simp)
    exact congrArg Except.ok hjoin
  · simp only [List.length_cons] at hmost
    omega

/-! ## Whole texts -/

/-- A text is whole groups up to `start` and then a last one, which stands for `last`. -/
structure Reads (text : Bytes) (start : Nat) (values group : List Nat) (padding : Nat)
    (last : Bytes) : Prop where
  whole : text.take start = values.map octet
  whole_lt : ∀ n ∈ values, n < 64
  rest : text.drop start = group.map octet ++ List.replicate padding pad
  rest_lt : ∀ n ∈ group, n < 64
  two : 2 ≤ group.length
  full : (padding + group.length) % 4 = 0
  joined : joinLast start (group.map withOctet) = .ok last

variable {text last bytes : Bytes} {start padding : Nat} {values group : List Nat}

theorem decodeFrom_of_reads (h : Reads text start values group padding last) :
    decode.decodeFrom text start = .ok (joinQuads values ++ last) := by
  have hlength : (group.map withOctet).length = group.length := List.length_map ..
  have htwo : decide (group.length < 2) = false := decide_eq_false (Nat.not_lt.2 h.two)
  unfold decode.decodeFrom
  rw [h.whole, decodeSymbols_octets 0 h.whole_lt]
  dsimp only
  rw [h.rest, decodeLast_octets start padding h.rest_lt (Nat.le_add_left_of_le h.two)]
  dsimp only
  rw [hlength, htwo, Bool.and_false, if_neg Bool.false_ne_true, if_neg (not_not_intro h.full),
    h.joined]

theorem reads_of_decodeFrom (hnil : text ≠ []) (h : decode.decodeFrom text start = .ok bytes) :
    ∃ values group padding last, Reads text start values group padding last ∧
      bytes = joinQuads values ++ last := by
  unfold decode.decodeFrom at h
  split at h
  next => exact nomatch h
  next values hwhole =>
    split at h
    next => exact nomatch h
    next symbols padding hrest =>
      split at h
      next => exact nomatch h
      next htwo =>
        split at h
        next => exact nomatch h
        next hfull =>
          split at h
          next => exact nomatch h
          next last hjoined =>
            obtain ⟨hwhole, hwholeLt⟩ := octets_of_decodeSymbols hwhole
            obtain ⟨group, rfl, hrestLt, hrest⟩ := of_decodeLast hrest
            rw [List.length_map] at htwo hfull
            have htwo : 2 ≤ group.length := Nat.not_lt.1 fun hlt => htwo (by simp [hnil, hlt])
            exact ⟨values, group, padding, last,
              ⟨hwhole, hwholeLt, hrest, hrestLt, htwo, Decidable.not_not.1 hfull, hjoined⟩,
              (Except.ok.inj h).symm⟩

theorem decodeFrom_of_decode (h : decode text = .ok bytes) :
    decode.decodeFrom text (lastStart text.length) = .ok bytes := by
  unfold decode at h
  dsimp only at h
  split at h
  · split at h
    · exact nomatch h
    · exact h
  · exact h

/-- A text of whole groups is read without a look ahead at its last octet. -/
theorem decode_eq (h : text.length % 4 = 0) :
    decode text = decode.decodeFrom text (lastStart text.length) := by
  have hone : ¬ text.length % 4 = 1 := by omega
  unfold decode
  dsimp only
  rw [if_neg hone]

theorem lastStart_of_fours {n : Nat} (h : n % 4 = 0) : lastStart (n + 4) = n := by
  unfold lastStart
  rw [if_neg (by omega), if_pos (by omega)]
  omega

theorem lastStart_bounds (n : Nat) :
    lastStart n % 4 = 0 ∧ lastStart n ≤ n ∧ n ≤ lastStart n + 4 := by
  unfold lastStart
  split
  · omega
  · split
    · omega
    · omega

/-- A byte string that is not empty has one to three octets behind those in threes. -/
theorem exists_last (h : bytes ≠ []) :
    ∃ front last, bytes = front ++ last ∧ front.length % 3 = 0 ∧ last ≠ [] ∧ last.length ≤ 3 := by
  have hpos := List.length_pos_iff.2 h
  let threes := (bytes.length - 1) / 3 * 3
  have hlast : (bytes.drop threes).length = bytes.length - threes := List.length_drop
  refine ⟨bytes.take threes, bytes.drop threes, (List.take_append_drop ..).symm, ?_, ?_, by omega⟩
  · rw [List.length_take_of_le (by omega)]
    omega
  · exact List.length_pos_iff.1 (by omega)

/-- What was written is read. -/
theorem decode_octets (bytes : Bytes) : decode (octets bytes) = .ok bytes := by
  by_cases hnil : bytes = []
  · subst hnil
    rfl
  obtain ⟨front, last, rfl, hfront, hlast, hmost⟩ := exists_last hnil
  obtain ⟨group, padding, hlt, htwo, hfour, hgroup, hjoined⟩ :=
    exists_decodeLast (sextets front).length hlast hmost
  have hthrees := length_sextets front
  have hwhole : ((sextets front).map octet).length = (sextets front).length := List.length_map ..
  have hrest : (octets last).length = 4 := by
    rw [hgroup, List.length_append, List.length_map, List.length_replicate]
    omega
  rw [octets_append hfront, decode_eq (by rw [List.length_append]; omega), List.length_append,
    hwhole, hrest, lastStart_of_fours (by omega)]
  have hreads : Reads ((sextets front).map octet ++ octets last) (sextets front).length
      (sextets front) group padding last :=
    { whole := List.take_left' hwhole
      whole_lt := sextets_lt front
      rest := (List.drop_left' hwhole).trans hgroup
      rest_lt := hlt
      two := htwo
      full := by omega
      joined := hjoined }
  rw [decodeFrom_of_reads hreads, joinQuads_sextets hfront]

/-- What is read is the written form of what is answered. -/
theorem eq_of_decode (h : decode text = .ok bytes) : text = octets bytes := by
  by_cases hnil : text = []
  · subst hnil
    obtain rfl : [] = bytes := Except.ok.inj h
    rfl
  obtain ⟨values, group, padding, last, hreads, rfl⟩ :=
    reads_of_decodeFrom hnil (decodeFrom_of_decode h)
  obtain ⟨hfours, hle, hge⟩ := lastStart_bounds text.length
  generalize lastStart text.length = start at hreads hfours hle hge
  have hvalues : values.length = start := by
    have hlength := congrArg List.length hreads.whole
    rwa [List.length_take_of_le hle, List.length_map, eq_comm] at hlength
  have hgroup : group.length + padding = text.length - start := by
    have hlength := congrArg List.length hreads.rest
    rwa [List.length_drop, List.length_append, List.length_map, List.length_replicate,
      eq_comm] at hlength
  -- The last group has two symbols and is filled up to a multiple of four, of four octets at most.
  have htwo := hreads.two
  have hfull := hreads.full
  have hpadding : padding = 4 - group.length := by omega
  calc text = text.take start ++ text.drop start := (List.take_append_drop ..).symm
    _ = values.map octet ++ (group.map octet ++ List.replicate (4 - group.length) pad) := by
      rw [hreads.whole, hreads.rest, hpadding]
    _ = values.map octet ++ octets last := by
      rw [octets_of_joinLast hreads.rest_lt htwo (by omega) hreads.joined]
    _ = octets (joinQuads values ++ last) :=
      (octets_joinQuads (by omega) hreads.whole_lt last).symm

/-- What is true of every symbol and of `=` is true of what is written. -/
theorem forall_mem_encodeChars {p : Char → Prop} (hsymbol : ∀ n < 64, p (symbol n)) (hpad : p '=')
    (bytes : Bytes) : ∀ c ∈ encodeChars bytes, p c := by
  fun_induction encodeChars bytes with
  | case1 a b c rest ih =>
    have ha := a.toNat_lt
    have hb := b.toNat_lt
    have hc := c.toNat_lt
    simp only [List.forall_mem_cons]
    exact ⟨hsymbol _ (by omega), hsymbol _ (by omega), hsymbol _ (by omega), hsymbol _ (by omega),
      ih⟩
  | case2 a b =>
    have ha := a.toNat_lt
    have hb := b.toNat_lt
    simp only [List.forall_mem_cons]
    exact ⟨hsymbol _ (by omega), hsymbol _ (by omega), hsymbol _ (by omega), hpad, nofun⟩
  | case3 a =>
    have ha := a.toNat_lt
    simp only [List.forall_mem_cons]
    exact ⟨hsymbol _ (by omega), hsymbol _ (by omega), hpad, hpad, nofun⟩
  | case4 => exact nofun

theorem encodeChars_ascii (bytes : Bytes) : ∀ c ∈ encodeChars bytes, c.toNat < 128 :=
  forall_mem_encodeChars symbol_ascii (by decide) bytes

theorem dash_not_mem_encodeChars (bytes : Bytes) : '-' ∉ encodeChars bytes := fun h =>
  forall_mem_encodeChars (p := (· ≠ '-')) (by decide) (by decide) bytes _ h rfl

/-- Reading accepts exactly what writing produces. -/
theorem decode_eq_ok_iff {text : List Char} {bytes : Bytes} :
    decode (Utf8.encode text) = .ok bytes ↔ text = encodeChars bytes := by
  have hoctets : Utf8.encode (encodeChars bytes) = octets bytes :=
    Utf8.encode_of_ascii (encodeChars_ascii bytes)
  constructor
  · intro h
    exact Utf8.encode_injective ((eq_of_decode h).trans hoctets.symm)
  · rintro rfl
    rw [hoctets, decode_octets]

end AssetCache.Base64
