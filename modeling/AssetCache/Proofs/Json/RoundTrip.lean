import Mathlib.Data.List.TakeDrop
import Mathlib.Tactic.SplitIfs
import AssetCache.Json.Parser

/-!
# Reading what was written

The compact text of a value is read as the value, if its strings and names have a text and its
numbers are integers.  The texts of values are read one behind another: what stands behind a value
is the end, or a character that no number goes on with.

Results:
1. `string?_quote`: a string is read behind its opening quote.
2. `number?_integer`: an integer is read.
3. `value?_render`: a value is read, with twice as many steps as its text has characters.
4. `parse?_render`: the text of a value is read as the value.
-/

namespace AssetCache.Json

/-- A value whose strings and names have a text, and whose numbers are integers. -/
inductive Plain : Json → Prop
  | null : Plain .null
  | bool (b : Bool) : Plain (.bool b)
  | integer (n : Int) : Plain (.integer n)
  | string (text : String) : Plain (ofString text)
  | array (items : List Json) (hitems : ∀ v ∈ items, Plain v) : Plain (.array items)
  | object (fields : List (String × Json)) (hfields : ∀ f ∈ fields, Plain f.2) :
    Plain (ofFields fields)

/-- What stands behind a value. -/
inductive Behind : List Char → Prop
  | nothing : Behind []
  | comma (rest : List Char) : Behind (',' :: rest)
  | bracket (rest : List Char) : Behind (']' :: rest)
  | brace (rest : List Char) : Behind ('}' :: rest)

variable {rest : List Char}

/-! ## Strings -/

theorem hex4?_control : ∀ n < 32,
    hex4? '0' '0' (Nat.digitChar (n / 16)) (Nat.digitChar (n % 16)) = some n := by
  decide

theorem ofNat_toNat_of_control {c : Char} (h : c.toNat < 32) : Unit16.ofNat c.toNat = .char c := by
  unfold Unit16.ofNat
  rw [if_neg (by simp; omega), if_neg (by simp; omega), Char.ofNat_toNat]

/-- A character is read as what it is escaped as. -/
theorem units?_escape (c : Char) (done : List Unit16) (rest : List Char) :
    units? done (escape c ++ rest) = units? (.char c :: done) rest := by
  unfold escape
  split_ifs with hquote hbackslash hback hfeed hline hreturn htab hcontrol
  · rw [hquote]
    rfl
  · rw [hbackslash]
    rfl
  · obtain rfl : c = '\x08' := Char.toNat_inj.1 hback
    rfl
  · obtain rfl : c = '\x0c' := Char.toNat_inj.1 hfeed
    rfl
  · rw [hline]
    rfl
  · rw [hreturn]
    rfl
  · rw [htab]
    rfl
  · -- Any other control is written by its number.
    show units? done ('\\' :: 'u' :: '0' :: '0' :: _ :: _ :: rest) = _
    rw [units?, hex4?_control _ hcontrol]
    dsimp only
    rw [ofNat_toNat_of_control hcontrol]
  · show units? done (c :: rest) = _
    simp [units?, hbackslash, hcontrol]

theorem units?_text (text : List Char) (done : List Unit16) (rest : List Char) :
    units? done (text.flatMap escape ++ '"' :: rest) =
      some (done.reverse ++ text.map .char, rest) := by
  induction text generalizing done with
  | nil =>
    rw [List.map_nil, List.append_nil]
    rfl
  | cons c text ih =>
    rw [List.flatMap_cons, List.append_assoc, units?_escape, ih, List.reverse_cons,
      List.append_assoc]
    rfl

theorem joinUnits_chars (text done : List Char) :
    joinUnits done (text.map .char) = some (done.reverse ++ text) := by
  induction text generalizing done with
  | nil => simp [joinUnits]
  | cons c text ih => simp [joinUnits, ih]

/-- A string is read behind its opening quote. -/
theorem string?_quote (s : String) (rest : List Char) :
    string? (s.toList.flatMap escape ++ '"' :: rest) = some (some s, rest) := by
  rw [string?, units?_text]
  simp [joinUnits_chars]

/-! ## Numbers -/

theorem naturalOf_toDigits (n : Nat) : naturalOf (Nat.toDigits 10 n) = n :=
  Nat.ofDigitChars_eq_foldl.symm.trans Nat.ofDigitChars_ten_toDigits

theorem isDigit_toDigits (n : Nat) : ∀ c ∈ Nat.toDigits 10 n, c.isDigit = true := fun _ =>
  Nat.isDigit_of_mem_toDigits (by decide) (by decide)

/-- The first digit of a number is a zero only if there is no other. -/
theorem exists_toDigits {n : Nat} (hpos : 0 < n) :
    ∃ c more, Nat.toDigits 10 n = c :: more ∧ c ≠ '0' := by
  induction n using Nat.strongRecOn with
  | ind n ih =>
    have hzero : ∀ d < 10, 0 < d → Nat.digitChar d ≠ '0' := by decide
    rw [Nat.toDigits_eq_if (by decide)]
    split
    next hlt => exact ⟨_, [], rfl, hzero n hlt hpos⟩
    next hge =>
      obtain ⟨c, more, hdigits, hc⟩ := ih (n / 10) (by omega) (by omega)
      exact ⟨c, _, by rw [hdigits, List.cons_append], hc⟩

/-- No digit stands behind a value. -/
theorem takeWhile_behind (h : Behind rest) : rest.takeWhile Char.isDigit = [] := by
  cases h with
  | _ => rfl

theorem dropWhile_behind (h : Behind rest) : rest.dropWhile Char.isDigit = rest := by
  cases h with
  | _ => rfl

theorem digits?_append {digits : List Char} (hne : digits ≠ [])
    (hdigits : ∀ c ∈ digits, c.isDigit = true) (h : Behind rest) :
    digits? (digits ++ rest) = some (digits, rest) := by
  unfold digits?
  rw [List.span_eq_takeWhile_dropWhile, List.takeWhile_append_of_pos hdigits,
    List.dropWhile_append_of_pos hdigits, takeWhile_behind h, dropWhile_behind h, List.append_nil]
  cases digits with
  | nil => exact absurd rfl hne
  | cons => rfl

theorem whole?_toDigits (n : Nat) (h : Behind rest) :
    whole? (Nat.toDigits 10 n ++ rest) = some (Nat.toDigits 10 n, rest) := by
  rcases Nat.eq_zero_or_pos n with rfl | hpos
  · cases h with
    | _ => rfl
  · have hread := digits?_append Nat.toDigits_ne_nil (isDigit_toDigits n) h
    obtain ⟨c, more, hdigits, hc⟩ := exists_toDigits hpos
    rw [hdigits] at hread ⊢
    unfold whole?
    split
    next rest' heq => exact absurd (List.cons.inj heq).1 hc
    next => exact hread

theorem fraction?_behind (h : Behind rest) : fraction? rest = some ([], rest) := by
  cases h with
  | _ => rfl

theorem exponent?_behind (h : Behind rest) : exponent? rest = some ([], rest) := by
  cases h with
  | _ => rfl

/-- The sign in front of digits is read, and then the digits. -/
theorem number?_digits (negative : Bool) (n : Nat) (h : Behind rest) :
    number? ((if negative then ['-'] else []) ++ Nat.toDigits 10 n ++ rest) =
      some (numberOf negative (Nat.toDigits 10 n) [] [], rest) := by
  have hrest : (whole? (Nat.toDigits 10 n ++ rest)).bind (fun whole =>
      (fraction? whole.2).bind fun fraction =>
        (exponent? fraction.2).map fun exponent =>
          (numberOf negative whole.1 fraction.1 exponent.1, exponent.2)) =
      some (numberOf negative (Nat.toDigits 10 n) [] [], rest) := by
    simp [whole?_toDigits n h, fraction?_behind h, exponent?_behind h]
  cases negative with
  | true => exact hrest
  | false =>
    have hdigits := isDigit_toDigits n
    unfold number?
    cases hn : Nat.toDigits 10 n with
    | nil => exact absurd hn Nat.toDigits_ne_nil
    | cons c more =>
      rw [hn] at hrest hdigits
      have hsign : c ≠ '-' := by
        rintro rfl
        exact absurd (hdigits '-' List.mem_cons_self) (by decide)
      simpa [hsign] using hrest

theorem toList_toString (n : Int) :
    (toString n).toList =
      (if decide (n < 0) then ['-'] else []) ++ Nat.toDigits 10 n.natAbs := by
  cases n with
  | ofNat m =>
    show (Nat.repr m).toList = _
    rw [Nat.repr_eq_ofList_toDigits, String.toList_ofList]
    rfl
  | negSucc m =>
    show ("-" ++ Nat.repr (m + 1)).toList = _
    rw [String.toList_append, Nat.repr_eq_ofList_toDigits, String.toList_ofList,
      String.toList_ofList, Int.natAbs_negSucc, decide_eq_true (Int.negSucc_lt_zero m)]
    rfl

theorem numberOf_toDigits (n : Int) :
    numberOf (decide (n < 0)) (Nat.toDigits 10 n.natAbs) [] [] = .integer n := by
  rw [numberOf, naturalOf_toDigits]
  rcases Int.lt_or_le n 0 with hn | hn
  · have hpos : (n.natAbs == 0) = false :=
      beq_eq_false_iff_ne.2 (Int.natAbs_ne_zero.2 (Int.ne_of_lt hn))
    have habs : -(n.natAbs : Int) = n := by omega
    rw [decide_eq_true hn, hpos]
    exact congrArg Json.integer habs
  · rw [decide_eq_false (Int.not_lt.2 hn)]
    exact congrArg Json.integer (Int.natAbs_of_nonneg hn)

/-- An integer is read. -/
theorem number?_integer (n : Int) (h : Behind rest) :
    number? ((toString n).toList ++ rest) = some (.integer n, rest) := by
  rw [toList_toString, number?_digits _ _ h, numberOf_toDigits]

/-! ## Values -/

/-- A value is read in front of what may stand behind one, in enough steps. -/
def Reads (v : Json) : Prop :=
  ∀ (steps : Nat) (rest : List Char), 2 * (renderChars v).length ≤ steps → Behind rest →
    value? steps (renderChars v ++ rest) = some (v, rest)

theorem skipBlanks_cons {c : Char} (h : isBlank c = false) (text : List Char) :
    skipBlanks (c :: text) = c :: text := by
  unfold skipBlanks
  rw [List.dropWhile_cons_of_neg (by simp [h])]

theorem skipBlanks_behind (h : Behind rest) : skipBlanks rest = rest := by
  cases h with
  | _ => rfl

/-- What begins like a number is read as one. -/
theorem value?_of_number {steps : Nat} {c : Char} {text : List Char}
    (h : c = '-' ∨ c.isDigit = true) : value? (steps + 1) (c :: text) = number? (c :: text) := by
  have hothers : ∀ k ∈ ['n', 't', 'f', '"', '[', '{', ' ', '\t', '\n', '\r'],
      ¬ (k = '-' ∨ k.isDigit = true) := by simp
  have hne : ∀ k ∈ ['n', 't', 'f', '"', '[', '{', ' ', '\t', '\n', '\r'], c ≠ k := by
    rintro k hk rfl
    exact hothers c hk h
  simp only [List.forall_mem_cons] at hne
  obtain ⟨hn, ht, hf, hquote, hbracket, hbrace, hspace, htab, hline, hreturn, -⟩ := hne
  have hblank : isBlank c = false := by simp [isBlank, hspace, htab, hline, hreturn]
  rw [value?, skipBlanks_cons hblank]
  simp [hn, ht, hf, hquote, hbracket, hbrace]

/-- A value that is written with a character at least is read in one step or more. -/
theorem reads_of_succ {v : Json} (hpos : 0 < (renderChars v).length)
    (h : ∀ (steps : Nat) (rest : List Char), 2 * (renderChars v).length ≤ steps + 1 → Behind rest →
      value? (steps + 1) (renderChars v ++ rest) = some (v, rest)) : Reads v := by
  intro steps rest hsteps hbehind
  cases steps with
  | zero => omega
  | succ steps => exact h steps rest hsteps hbehind

theorem reads_null : Reads .null :=
  reads_of_succ (by decide) fun _ _ _ _ => rfl

theorem reads_bool (b : Bool) : Reads (.bool b) := by
  cases b with
  | _ => exact reads_of_succ (by decide) fun _ _ _ _ => rfl

/-- An integer begins with its sign or with a digit. -/
theorem exists_toList_toString (n : Int) :
    ∃ c more, (toString n).toList = c :: more ∧ (c = '-' ∨ c.isDigit = true) := by
  have hdigits := isDigit_toDigits n.natAbs
  rw [toList_toString]
  split
  next => exact ⟨'-', _, rfl, .inl rfl⟩
  next =>
    cases hn : Nat.toDigits 10 n.natAbs with
    | nil => exact absurd hn Nat.toDigits_ne_nil
    | cons c more => exact ⟨c, more, rfl, .inr (hdigits c (hn ▸ List.mem_cons_self))⟩

theorem reads_integer (n : Int) : Reads (.integer n) := by
  obtain ⟨c, more, hchars, hc⟩ := exists_toList_toString n
  refine reads_of_succ ?_ fun steps rest _ hbehind => ?_
  · rw [renderChars, hchars]
    exact Nat.succ_pos _
  · have hread := number?_integer n hbehind
    rw [renderChars]
    rw [hchars] at hread ⊢
    exact (value?_of_number hc).trans hread

theorem value?_quote (steps : Nat) (text : List Char) :
    value? (steps + 1) ('"' :: text) =
      (string? text).map fun (s, rest) => (.string s, rest) := by
  rw [value?, skipBlanks_cons rfl]
  rfl

theorem value?_bracket (steps : Nat) (text : List Char) :
    value? (steps + 1) ('[' :: text) =
      match skipBlanks text with
      | ']' :: rest => some (.array [], rest)
      | _ => (items? steps [] text).map fun (items, rest) => (.array items, rest) := by
  rw [value?, skipBlanks_cons rfl]
  rfl

theorem value?_brace (steps : Nat) (text : List Char) :
    value? (steps + 1) ('{' :: text) =
      match skipBlanks text with
      | '}' :: rest => some (.object [], rest)
      | _ => (fields? steps [] text).map fun (fields, rest) => (.object fields, rest) := by
  rw [value?, skipBlanks_cons rfl]
  rfl

theorem quote_append (s : String) (rest : List Char) :
    quote s ++ rest = '"' :: (s.toList.flatMap escape ++ '"' :: rest) := by
  simp [quote]

theorem reads_string (text : String) : Reads (ofString text) := by
  have hpos : 0 < (renderChars (ofString text)).length := Nat.succ_pos _
  refine reads_of_succ hpos fun steps rest _ _ => ?_
  show value? (steps + 1) (quote text ++ rest) = _
  rw [quote_append, value?_quote, string?_quote]
  rfl

/-! ## Items and fields -/

/-- No item begins with the closing bracket. -/
theorem items?_bracket {text more : List Char} (h : skipBlanks text = ']' :: more) (steps : Nat)
    (done : List Json) : items? steps done text = none := by
  match steps with
  | 0 => rfl
  | 1 => rfl
  | steps + 2 =>
    have hvalue : value? (steps + 1) text = none := by
      rw [value?, h]
      rfl
    rw [items?, hvalue]

theorem fields?_brace {text more : List Char} (h : skipBlanks text = '}' :: more) (steps : Nat)
    (done : List (Option String × Json)) : fields? steps done text = none := by
  cases steps with
  | zero => rfl
  | succ steps =>
    rw [fields?, h]
    rfl

theorem value?_items {steps : Nat} {text : List Char} {items : List Json}
    (h : items? steps [] text = some (items, rest)) :
    value? (steps + 1) ('[' :: text) = some (.array items, rest) := by
  rw [value?_bracket]
  split
  next hbracket =>
    rw [items?_bracket hbracket] at h
    cases h
  next =>
    rw [h]
    rfl

theorem value?_fields {steps : Nat} {text : List Char} {fields : List (Option String × Json)}
    (h : fields? steps [] text = some (fields, rest)) :
    value? (steps + 1) ('{' :: text) = some (.object fields, rest) := by
  rw [value?_brace]
  split
  next hbrace =>
    rw [fields?_brace hbrace] at h
    cases h
  next =>
    rw [h]
    rfl

theorem items?_last {steps : Nat} {text : List Char} {v : Json} (done : List Json)
    (hv : value? steps text = some (v, ']' :: rest)) :
    items? (steps + 1) done text = some (done.reverse ++ [v], rest) := by
  rw [items?, hv]
  simp [skipBlanks_behind (.bracket rest)]

theorem items?_more {steps : Nat} {text : List Char} {v : Json} (done : List Json)
    (hv : value? steps text = some (v, ',' :: rest)) :
    items? (steps + 1) done text = items? steps (v :: done) rest := by
  rw [items?, hv]
  simp [skipBlanks_behind (.comma rest)]

theorem fields?_last {steps : Nat} {text : List Char} {v : Json} (name : String)
    (done : List (Option String × Json)) (hv : value? steps text = some (v, '}' :: rest)) :
    fields? (steps + 1) done (quote name ++ ':' :: text) =
      some (done.reverse ++ [(some name, v)], rest) := by
  rw [quote_append, fields?, skipBlanks_cons rfl]
  simp [string?_quote, skipBlanks_cons (show isBlank ':' = false from rfl), hv,
    skipBlanks_behind (.brace rest)]

theorem fields?_more {steps : Nat} {text : List Char} {v : Json} (name : String)
    (done : List (Option String × Json)) (hv : value? steps text = some (v, ',' :: rest)) :
    fields? (steps + 1) done (quote name ++ ':' :: text) =
      fields? steps ((some name, v) :: done) rest := by
  rw [quote_append, fields?, skipBlanks_cons rfl]
  simp [string?_quote, skipBlanks_cons (show isBlank ':' = false from rfl), hv,
    skipBlanks_behind (.comma rest)]

theorem renderItems_cons {items : List Json} (v : Json) (hne : items ≠ []) :
    renderItems (v :: items) = renderChars v ++ ',' :: renderItems items := by
  cases items with
  | nil => exact absurd rfl hne
  | cons w others => rfl

theorem items?_render {items : List Json} (hne : items ≠ []) (hreads : ∀ v ∈ items, Reads v)
    {steps : Nat} (hsteps : 2 * (renderItems items).length < steps) (done : List Json)
    (rest : List Char) :
    items? steps done (renderItems items ++ ']' :: rest) = some (done.reverse ++ items, rest) := by
  induction items generalizing steps done with
  | nil => exact absurd rfl hne
  | cons v items ih =>
    obtain ⟨hv, hitems⟩ := List.forall_mem_cons.1 hreads
    obtain ⟨steps, rfl⟩ := Nat.exists_eq_add_one_of_ne_zero (Nat.ne_zero_of_lt hsteps)
    rcases eq_or_ne items [] with rfl | hmore
    · exact items?_last done (hv _ _ (Nat.le_of_lt_succ hsteps) (.bracket rest))
    · rw [renderItems_cons v hmore] at hsteps ⊢
      rw [List.length_append, List.length_cons] at hsteps
      rw [List.append_assoc, List.cons_append, items?_more done (hv _ _ (by omega) (.comma _)),
        ih hmore hitems (by omega), List.reverse_cons, List.append_assoc]
      rfl

/-- The fields of an object as they are written. -/
def named (fields : List (String × Json)) : List (Option String × Json) :=
  fields.map fun f => (some f.1, f.2)

theorem renderFields_cons {fields : List (String × Json)} (name : String) (v : Json)
    (hne : fields ≠ []) :
    renderFields (named ((name, v) :: fields)) =
      quote name ++ ':' :: (renderChars v ++ ',' :: renderFields (named fields)) := by
  cases fields with
  | nil => exact absurd rfl hne
  | cons f others => rfl

theorem fields?_render {fields : List (String × Json)} (hne : fields ≠ [])
    (hreads : ∀ f ∈ fields, Reads f.2) {steps : Nat}
    (hsteps : 2 * (renderFields (named fields)).length < steps)
    (done : List (Option String × Json)) (rest : List Char) :
    fields? steps done (renderFields (named fields) ++ '}' :: rest) =
      some (done.reverse ++ named fields, rest) := by
  induction fields generalizing steps done with
  | nil => exact absurd rfl hne
  | cons f fields ih =>
    obtain ⟨name, v⟩ := f
    obtain ⟨hv : Reads v, hfields⟩ := List.forall_mem_cons.1 hreads
    obtain ⟨steps, rfl⟩ := Nat.exists_eq_add_one_of_ne_zero (Nat.ne_zero_of_lt hsteps)
    rcases eq_or_ne fields [] with rfl | hmore
    · have hone : renderFields (named [(name, v)]) = quote name ++ ':' :: renderChars v := rfl
      rw [hone] at hsteps ⊢
      rw [List.length_append, List.length_cons] at hsteps
      rw [List.append_assoc, List.cons_append]
      exact fields?_last name done (hv _ _ (by omega) (.brace rest))
    · rw [renderFields_cons name v hmore] at hsteps ⊢
      simp only [List.length_append, List.length_cons] at hsteps
      rw [List.append_assoc, List.cons_append, List.append_assoc, List.cons_append,
        fields?_more name done (hv _ _ (by omega) (.comma _)), ih hmore hfields (by omega),
        List.reverse_cons, List.append_assoc]
      rfl

/-! ## The text of a value -/

theorem reads_array {items : List Json} (hreads : ∀ v ∈ items, Reads v) : Reads (.array items) := by
  have hpos : 0 < (renderChars (.array items)).length := Nat.succ_pos _
  refine reads_of_succ hpos fun steps rest hsteps _ => ?_
  rw [renderChars] at hsteps ⊢
  rw [List.length_cons, List.length_append] at hsteps
  rw [List.cons_append, List.append_assoc]
  rcases eq_or_ne items [] with rfl | hne
  · rw [value?_bracket]
    rfl
  · exact value?_items (items?_render hne hreads (by omega) [] rest)

theorem reads_object {fields : List (String × Json)} (hreads : ∀ f ∈ fields, Reads f.2) :
    Reads (ofFields fields) := by
  have hobject : ofFields fields = .object (named fields) := rfl
  have hpos : 0 < (renderChars (ofFields fields)).length := Nat.succ_pos _
  refine reads_of_succ hpos fun steps rest hsteps _ => ?_
  rw [hobject, renderChars] at hsteps ⊢
  rw [List.length_cons, List.length_append] at hsteps
  rw [List.cons_append, List.append_assoc]
  rcases eq_or_ne fields [] with rfl | hne
  · rw [value?_brace]
    rfl
  · exact value?_fields (fields?_render hne hreads (by omega) [] rest)

/-- A value is read where it is written. -/
theorem value?_render {v : Json} (h : Plain v) : Reads v := by
  induction h with
  | null => exact reads_null
  | bool b => exact reads_bool b
  | integer n => exact reads_integer n
  | string text => exact reads_string text
  | array items _ ih => exact reads_array ih
  | object fields _ ih => exact reads_object ih

/-- The text of a value is read as the value. -/
theorem parse?_render {v : Json} (h : Plain v) : parse? v.render = some v := by
  have hread := value?_render h (2 * (renderChars v).length + 2) [] (by omega) .nothing
  rw [List.append_nil] at hread
  rw [parse?, render, String.toList_ofList, parseChars?, hread]
  rfl

end AssetCache.Json
