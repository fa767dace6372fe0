import AssetCache.Text.Decimal

/-!
# Reading decimal numbers

Digits are counted up from the left, and the first thing that goes wrong decides: a character that
is no digit, or a digit that takes the number past the largest.  Said without that order: a text is
too large if the digits at its front count 2 ^ 64 or more, whatever comes behind them; any other
text that does not spell a number is invalid.

Results:
1. `read_eq_ok_iff`: what is read is the number of 64 bits that the text spells.
2. `read_eq_error_iff`: the texts that are not read, and why.
-/

namespace AssetCache.Decimal

/-- Nothing, or one `+`. -/
def IsSign (text : List Char) : Prop := text = [] ∨ text = ['+']

/-- Nothing but ASCII digits. -/
def AreDigits (text : List Char) : Prop := ∀ c ∈ text, c.isDigit = true

/-- A number as a text: digits, at least one, and at most one `+` in front. -/
def Spells (text : List Char) (n : Nat) : Prop :=
  ∃ sign digits, text = sign ++ digits ∧ IsSign sign ∧ digits ≠ [] ∧ AreDigits digits ∧
    Nat.ofDigitChars 10 digits 0 = n

/-- The digits at the front of a text count more than 64 bits hold. -/
def Overruns (text : List Char) : Prop :=
  ∃ sign digits rest, text = sign ++ digits ++ rest ∧ IsSign sign ∧ AreDigits digits ∧
    UInt64.size ≤ Nat.ofDigitChars 10 digits 0

/-- Why a text is no number of 64 bits. -/
def Refuses (text : List Char) : Error → Prop
  | .tooLarge => Overruns text
  | .invalidDigit => (∀ n, ¬ Spells text n) ∧ ¬ Overruns text

theorem largest_lt_iff {n : Nat} : largest < n ↔ UInt64.size ≤ n := Iff.rfl

theorem le_largest_iff {n : Nat} : n ≤ largest ↔ n < UInt64.size := Nat.lt_succ_iff.symm

/-! ## Digits -/

theorem areDigits_cons {c : Char} {text : List Char} :
    AreDigits (c :: text) ↔ c.isDigit = true ∧ AreDigits text := List.forall_mem_cons

theorem le_ofDigitChars (digits : List Char) (sofar : Nat) :
    sofar ≤ Nat.ofDigitChars 10 digits sofar := by
  induction digits generalizing sofar with
  | nil => exact Nat.le_refl _
  | cons c rest ih =>
    rw [Nat.ofDigitChars_cons]
    exact Nat.le_trans (by omega) (ih _)

/-- One character is a digit that fits, a digit that does not, or no digit. -/
theorem readDigits_cons (sofar : Nat) (c : Char) (rest : List Char) :
    readDigits sofar (c :: rest) =
      if c.isDigit = true then
        if largest < 10 * sofar + (c.toNat - '0'.toNat) then .error .tooLarge
        else readDigits (10 * sofar + (c.toNat - '0'.toNat)) rest
      else .error .invalidDigit := by
  have hdigit : digit? c = if c.isDigit = true then some (c.toNat - '0'.toNat) else none := rfl
  rw [readDigits, hdigit]
  by_cases h : c.isDigit = true
  · rw [if_pos h, if_pos h]
  · rw [if_neg h, if_neg h]

theorem readDigits_eq_ok_iff {text : List Char} {sofar n : Nat} (hsofar : sofar ≤ largest) :
    readDigits sofar text = .ok n ↔
      AreDigits text ∧ Nat.ofDigitChars 10 text sofar = n ∧ n ≤ largest := by
  induction text generalizing sofar with
  | nil =>
    rw [readDigits, Except.ok.injEq]
    constructor
    · rintro rfl
      exact ⟨nofun, rfl, hsofar⟩
    · exact fun h => h.2.1
  | cons c rest ih =>
    rw [readDigits_cons, areDigits_cons, Nat.ofDigitChars_cons]
    by_cases hdigit : c.isDigit = true
    · rw [if_pos hdigit]
      split
      next hlarge =>
        refine ⟨nofun, fun ⟨_, hvalue, hmax⟩ => ?_⟩
        have hle := le_ofDigitChars rest (10 * sofar + (c.toNat - '0'.toNat))
        omega
      next hfits => rw [ih (Nat.not_lt.1 hfits), and_iff_right hdigit]
    · rw [if_neg hdigit]
      exact ⟨nofun, fun h => absurd h.1.1 hdigit⟩

theorem readDigits_eq_tooLarge_iff {text : List Char} {sofar : Nat} (hsofar : sofar ≤ largest) :
    readDigits sofar text = .error .tooLarge ↔
      ∃ digits rest, text = digits ++ rest ∧ AreDigits digits ∧
        largest < Nat.ofDigitChars 10 digits sofar := by
  induction text generalizing sofar with
  | nil =>
    refine ⟨nofun, fun ⟨digits, rest, htext, _, hlarge⟩ => ?_⟩
    obtain ⟨rfl, -⟩ := List.nil_eq_append_iff.1 htext
    exact absurd hsofar (Nat.not_le.2 hlarge)
  | cons c rest ih =>
    rw [readDigits_cons]
    by_cases hdigit : c.isDigit = true
    · rw [if_pos hdigit]
      split
      next hlarge =>
        refine ⟨fun _ => ⟨[c], rest, rfl, areDigits_cons.2 ⟨hdigit, nofun⟩, hlarge⟩, fun _ => rfl⟩
      next hfits =>
        rw [ih (Nat.not_lt.1 hfits)]
        constructor
        · rintro ⟨digits, behind, rfl, hdigits, hlarge⟩
          exact ⟨c :: digits, behind, rfl, areDigits_cons.2 ⟨hdigit, hdigits⟩, hlarge⟩
        · rintro ⟨digits, behind, htext, hdigits, hlarge⟩
          cases digits with
          | nil => exact absurd hsofar (Nat.not_le.2 hlarge)
          | cons d digits =>
            obtain ⟨rfl, rfl⟩ := List.cons.inj htext
            exact ⟨digits, behind, rfl, (areDigits_cons.1 hdigits).2, hlarge⟩
    · rw [if_neg hdigit]
      refine ⟨nofun, fun ⟨digits, behind, htext, hdigits, hlarge⟩ => ?_⟩
      cases digits with
      | nil => exact absurd hsofar (Nat.not_le.2 hlarge)
      | cons d digits =>
        obtain ⟨rfl, -⟩ := List.cons.inj htext
        exact absurd (areDigits_cons.1 hdigits).1 hdigit

/-! ## Signs -/

/-- A text without the `+` in front of it, if there is one. -/
def unsigned : List Char → List Char
  | '+' :: rest => rest
  | text => text

theorem unsigned_of_ne {c : Char} (h : c ≠ '+') (rest : List Char) :
    unsigned (c :: rest) = c :: rest := by
  unfold unsigned
  split
  next heq => exact absurd (List.cons.inj heq).1 h
  next => rfl

theorem read_eq (text : List Char) :
    read text =
      if unsigned text = [] then .error .invalidDigit else readDigits 0 (unsigned text) := by
  unfold read
  split
  next rest =>
    simp only [unsigned, List.isEmpty_iff]
  next hplain =>
    have hunsigned : unsigned text = text := by
      cases text with
      | nil => rfl
      | cons c rest => exact unsigned_of_ne (fun h => hplain rest (h ▸ rfl)) rest
    simp only [hunsigned, List.isEmpty_iff]

theorem exists_sign (text : List Char) : ∃ sign, IsSign sign ∧ text = sign ++ unsigned text := by
  fun_cases unsigned text with
  | case1 rest => exact ⟨['+'], .inr rfl, rfl⟩
  | case2 => exact ⟨[], .inl rfl, rfl⟩

theorem unsigned_append {sign digits : List Char} (hsign : IsSign sign) (hdigits : AreDigits digits)
    (hsome : digits ≠ []) (rest : List Char) :
    unsigned (sign ++ digits ++ rest) = digits ++ rest := by
  rcases hsign with rfl | rfl
  · cases digits with
    | nil => exact absurd rfl hsome
    | cons c digits =>
      have hplus : c ≠ '+' := by
        rintro rfl
        exact absurd (areDigits_cons.1 hdigits).1 (by decide)
      exact unsigned_of_ne hplus (digits ++ rest)
  · rfl

theorem Spells.ne_nil {text : List Char} {n : Nat} (h : Spells text n) : text ≠ [] := by
  obtain ⟨sign, digits, rfl, -, hsome, -⟩ := h
  exact List.append_ne_nil_of_right_ne_nil sign hsome

/-- What is read is the number that the text spells, if it is one of 64 bits. -/
theorem read_eq_ok_iff {text : List Char} {n : Nat} :
    read text = .ok n ↔ Spells text n ∧ n < UInt64.size := by
  rw [read_eq, ← le_largest_iff]
  constructor
  · intro h
    split at h
    next => exact nomatch h
    next hsome =>
      obtain ⟨sign, hsign, htext⟩ := exists_sign text
      obtain ⟨hdigits, hvalue, hmax⟩ := (readDigits_eq_ok_iff (Nat.zero_le _)).1 h
      exact ⟨⟨sign, unsigned text, htext, hsign, hsome, hdigits, hvalue⟩, hmax⟩
  · rintro ⟨⟨sign, digits, rfl, hsign, hsome, hdigits, hvalue⟩, hmax⟩
    have hunsigned := unsigned_append hsign hdigits hsome []
    rw [List.append_nil, List.append_nil] at hunsigned
    rw [hunsigned, if_neg hsome]
    exact (readDigits_eq_ok_iff (Nat.zero_le _)).2 ⟨hdigits, hvalue, hmax⟩

/-- Whatever follows digits that count too much, the text is too large. -/
theorem read_eq_tooLarge_iff {text : List Char} :
    read text = .error .tooLarge ↔ Overruns text := by
  rw [read_eq]
  constructor
  · intro h
    split at h
    next => exact nomatch h
    next =>
      obtain ⟨sign, hsign, htext⟩ := exists_sign text
      obtain ⟨digits, rest, hrest, hdigits, hlarge⟩ :=
        (readDigits_eq_tooLarge_iff (Nat.zero_le _)).1 h
      rw [hrest, ← List.append_assoc] at htext
      exact ⟨sign, digits, rest, htext, hsign, hdigits, largest_lt_iff.1 hlarge⟩
  · rintro ⟨sign, digits, rest, rfl, hsign, hdigits, hlarge⟩
    rw [← largest_lt_iff] at hlarge
    have hsome : digits ≠ [] := by
      rintro rfl
      exact absurd hlarge (Nat.not_lt.2 (Nat.zero_le _))
    rw [unsigned_append hsign hdigits hsome, if_neg (by simp [hsome])]
    exact (readDigits_eq_tooLarge_iff (Nat.zero_le _)).2 ⟨digits, rest, rfl, hdigits, hlarge⟩

theorem overruns_of_spells {text : List Char} {n : Nat} (h : Spells text n)
    (hlarge : UInt64.size ≤ n) : Overruns text := by
  obtain ⟨sign, digits, rfl, hsign, -, hdigits, rfl⟩ := h
  exact ⟨sign, digits, [], (List.append_nil _).symm, hsign, hdigits, hlarge⟩

/-- A text that is not read is too large, or neither that nor a number. -/
theorem read_eq_error_iff {text : List Char} {e : Error} :
    read text = .error e ↔ Refuses text e := by
  cases e with
  | tooLarge => exact read_eq_tooLarge_iff
  | invalidDigit =>
    rw [Refuses, ← read_eq_tooLarge_iff]
    constructor
    · intro h
      refine ⟨fun n hspells => ?_, fun hlarge => nomatch h.symm.trans hlarge⟩
      by_cases hmax : n < UInt64.size
      · exact nomatch h.symm.trans (read_eq_ok_iff.2 ⟨hspells, hmax⟩)
      · have hlarge := overruns_of_spells hspells (Nat.not_lt.1 hmax)
        exact nomatch h.symm.trans (read_eq_tooLarge_iff.2 hlarge)
    · rintro ⟨hspells, hfits⟩
      cases h : read text with
      | ok n => exact absurd (read_eq_ok_iff.1 h).1 (hspells n)
      | error e =>
        cases e with
        | invalidDigit => rfl
        | tooLarge => exact absurd h hfits

end AssetCache.Decimal
