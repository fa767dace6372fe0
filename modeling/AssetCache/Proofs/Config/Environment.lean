import AssetCache.Config
import AssetCache.Proofs.Text.Blank
import AssetCache.Proofs.Text.Decimal
import AssetCache.Proofs.Text.Utf8Reading

/-!
# Settings from an environment

Two of the three variables hold numbers and are read alike; the third holds the name.  What a
variable says, and what an environment leads to, are stated here as rules, one for each way that it
may be: the texts between the blanks by the grammar of numbers, and the faults by which of them is
reported first.  Misread numbers come before numbers that are zero, so a limit that is no number is
reported before a timeout of zero.  There is no rule for a blank name, for the usual one takes its
place.

Results:
1. `readNumber_eq_iff`: a number is read as its variable says.
2. `agentOf_eq_iff`: the name is the one that is set, or the usual one.
3. `validate_eq_ok_iff`: which settings are valid.
4. `ofEnvironment_exact`: which environments give settings, which ones, and what is reported of any
   other environment.
-/

namespace AssetCache.Config

/-! ## Variables -/

/-- A variable holds a text. -/
def Environment.Holds (env : Environment) (name raw : String) : Prop :=
  env name = some (Utf8.ofString raw)

/-- What a variable says about a number: none, one of 64 bits, or an error with the text. -/
inductive Environment.Says (env : Environment) (name : String) :
    Except ConfigError (Option Nat) → Prop
  /-- A variable that is not set says nothing. -/
  | unset : env name = none → Says env name (.ok none)
  /-- Octets that are no text say nothing. -/
  | noText {bytes : Bytes} : env name = some bytes → (∀ raw, bytes ≠ Utf8.ofString raw) →
      Says env name (.ok none)
  /-- A blank text says nothing. -/
  | blank {raw : String} : env.Holds name raw → Blank.AreBlank raw.toList → Says env name (.ok none)
  /-- A number may have blanks around it. -/
  | number {raw : String} {core : List Char} {n : Nat} : env.Holds name raw →
      Blank.Trimmed raw.toList core → Decimal.Spells core n → n < UInt64.size →
      Says env name (.ok (some n))
  /-- Of any other text the whole is reported, and what is wrong with it between the blanks. -/
  | misread {raw : String} {core : List Char} {cause : Decimal.Error} : env.Holds name raw →
      ¬ Blank.AreBlank raw.toList → Blank.Trimmed raw.toList core → Decimal.Refuses core cause →
      Says env name (.error (.invalidValue name raw cause.message))

section

variable {env : Environment} {name raw : String}

theorem isBlankText_iff {s : String} : isBlankText s = true ↔ Blank.AreBlank s.toList := by
  rw [isBlankText, List.isEmpty_iff, Blank.trim_eq_nil_iff]

theorem Environment.text?_eq_some_iff : env.text? name = some raw ↔ env.Holds name raw := by
  unfold text? Holds
  rw [Option.bind_eq_some_iff]
  constructor
  · rintro ⟨bytes, hbytes, htext⟩
    obtain ⟨text, hdecode, rfl⟩ := Option.map_eq_some_iff.1 htext
    rw [hbytes, Utf8.decode?_eq_some_iff.1 hdecode, Utf8.ofString, String.toList_ofList]
  · intro h
    refine ⟨_, h, ?_⟩
    rw [Utf8.ofString, Utf8.decode?_encode, Option.map_some, String.ofList_toList]

theorem Environment.text?_eq_none_iff : env.text? name = none ↔ ∀ raw, ¬ env.Holds name raw := by
  simp only [← text?_eq_some_iff, Option.eq_none_iff_forall_ne_some, ne_eq]

theorem readNumber_of_not_holds (h : ∀ raw, ¬ env.Holds name raw) :
    readNumber env name = .ok none := by
  unfold readNumber
  rw [Environment.text?_eq_none_iff.2 h]

theorem readNumber_of_blank (h : env.Holds name raw) (hblank : Blank.AreBlank raw.toList) :
    readNumber env name = .ok none := by
  unfold readNumber
  rw [Environment.text?_eq_some_iff.2 h]
  exact if_pos (isBlankText_iff.2 hblank)

theorem readNumber_of_not_blank (h : env.Holds name raw) (hblank : ¬ Blank.AreBlank raw.toList) :
    readNumber env name =
      match Decimal.read (Blank.trim raw.toList) with
      | .ok n => .ok (some n)
      | .error cause => .error (.invalidValue name raw cause.message) := by
  unfold readNumber
  rw [Environment.text?_eq_some_iff.2 h]
  exact if_neg (mt isBlankText_iff.1 hblank)

/-- Every variable says what is read of it. -/
theorem says_readNumber (env : Environment) (name : String) :
    env.Says name (readNumber env name) := by
  cases hvalue : env name with
  | none =>
    rw [readNumber_of_not_holds fun raw h => nomatch hvalue.symm.trans h]
    exact .unset hvalue
  | some bytes =>
    by_cases htext : ∃ raw, bytes = Utf8.ofString raw
    · obtain ⟨raw, rfl⟩ := htext
      have hholds : env.Holds name raw := hvalue
      by_cases hblank : Blank.AreBlank raw.toList
      · rw [readNumber_of_blank hholds hblank]
        exact .blank hholds hblank
      · rw [readNumber_of_not_blank hholds hblank]
        have htrim := Blank.trimmed_trim raw.toList
        split
        next n hread =>
          obtain ⟨hspells, hlt⟩ := Decimal.read_eq_ok_iff.1 hread
          exact .number hholds htrim hspells hlt
        next cause hread => exact .misread hholds hblank htrim (Decimal.read_eq_error_iff.1 hread)
    · have hno : ∀ raw, bytes ≠ Utf8.ofString raw := fun raw h => htext ⟨raw, h⟩
      rw [readNumber_of_not_holds fun raw h => hno raw (Option.some.inj (hvalue.symm.trans h))]
      exact .noText hvalue hno

theorem readNumber_of_says {answer : Except ConfigError (Option Nat)} (h : env.Says name answer) :
    readNumber env name = answer := by
  cases h with
  | unset h => exact readNumber_of_not_holds fun raw hraw => nomatch h.symm.trans hraw
  | noText h hno =>
    exact readNumber_of_not_holds fun raw hraw => hno raw (Option.some.inj (h.symm.trans hraw))
  | blank h hblank => exact readNumber_of_blank h hblank
  | number h htrim hspells hlt =>
    rw [readNumber_of_not_blank h (htrim.not_areBlank hspells.ne_nil), htrim.trim_eq,
      Decimal.read_eq_ok_iff.2 ⟨hspells, hlt⟩]
  | misread h hblank htrim hrefuses =>
    rw [readNumber_of_not_blank h hblank, htrim.trim_eq, Decimal.read_eq_error_iff.2 hrefuses]

theorem readNumber_eq_iff {answer : Except ConfigError (Option Nat)} :
    readNumber env name = answer ↔ env.Says name answer :=
  ⟨fun h => h ▸ says_readNumber env name, readNumber_of_says⟩

end

/-! ## The name -/

/-- The name that an environment gives to fetches: a text that is not blank, as it stands, or else
the usual name. -/
inductive Environment.Names (env : Environment) : String → Prop
  | given {raw : String} : env.Holds agentVariable raw → ¬ Blank.AreBlank raw.toList → Names env raw
  | usual : (∀ raw, env.Holds agentVariable raw → Blank.AreBlank raw.toList) →
      Names env ({} : Config).userAgent

/-- The name that is read. -/
def agentOf (env : Environment) : String := (readAgent env).getD ({} : Config).userAgent

theorem readAgent_eq_some_iff {env : Environment} {raw : String} :
    readAgent env = some raw ↔
      env.Holds agentVariable raw ∧ ¬ Blank.AreBlank raw.toList := by
  rw [readAgent, Option.filter_eq_some_iff, Environment.text?_eq_some_iff, Bool.not_eq_true',
    ← isBlankText_iff, Bool.not_eq_true]

theorem names_agentOf (env : Environment) : env.Names (agentOf env) := by
  unfold agentOf
  cases h : readAgent env with
  | none =>
    refine .usual fun raw hholds => Classical.byContradiction fun hblank => ?_
    exact nomatch h.symm.trans (readAgent_eq_some_iff.2 ⟨hholds, hblank⟩)
  | some raw =>
    obtain ⟨hholds, hblank⟩ := readAgent_eq_some_iff.1 h
    exact .given hholds hblank

theorem agentOf_eq_iff {env : Environment} {agent : String} :
    agentOf env = agent ↔ env.Names agent := by
  refine ⟨fun h => h ▸ names_agentOf env, fun h => ?_⟩
  unfold agentOf
  cases h with
  | given hholds hblank => rw [readAgent_eq_some_iff.2 ⟨hholds, hblank⟩, Option.getD_some]
  | usual h =>
    cases hread : readAgent env with
    | none => rfl
    | some raw =>
      obtain ⟨hholds, hblank⟩ := readAgent_eq_some_iff.1 hread
      exact absurd (h raw hholds) hblank

theorem Environment.Names.not_areBlank {env : Environment} {agent : String} (h : env.Names agent) :
    ¬ Blank.AreBlank agent.toList := by
  cases h with
  | given _ hblank => exact hblank
  | usual => exact fun h => absurd (h 's' (by decide)) (by decide)

/-! ## Validation -/

theorem validate_eq_ok_iff {c : Config} :
    c.validate = .ok () ↔
      c.fetchTimeout ≠ some .zero ∧ c.maxBufferedBytes ≠ some 0 ∧
        ¬ Blank.AreBlank c.userAgent.toList := by
  unfold validate
  rw [← isBlankText_iff]
  by_cases htime : c.fetchTimeout = some .zero
  · simp [htime]
  by_cases hlimit : c.maxBufferedBytes = some 0
  · simp [htime, hlimit]
  by_cases hagent : isBlankText c.userAgent = true
  · simp [htime, hlimit, hagent]
  · simp [htime, hlimit, hagent]

/-- Where the name is not blank, the timeout and then the limit decide. -/
theorem validate_of_agent {c : Config} (h : ¬ Blank.AreBlank c.userAgent.toList) :
    c.validate =
      if c.fetchTimeout = some .zero then
        .error (.invalidValue "fetch_timeout" "0" "must be positive")
      else if c.maxBufferedBytes = some 0 then
        .error (.invalidValue "max_buffered_bytes" "0" "must be positive")
      else .ok () := by
  unfold validate
  rw [if_neg (mt isBlankText_iff.1 h)]

theorem map_ofSeconds_eq_zero {timeout : Option Nat} :
    timeout.map Duration.ofSeconds = some .zero ↔ timeout = some 0 := by
  cases timeout with
  | none => simp
  | some n => simp [Duration.ofSeconds, Duration.zero]

/-! ## Settings -/

/-- What an environment leads to. -/
inductive Environment.Leads (env : Environment) : Except ConfigError Config → Prop
  /-- A timeout that is no number is reported, whatever else is set. -/
  | timeoutMisread {e : ConfigError} : env.Says timeoutVariable (.error e) → Leads env (.error e)
  /-- Then a limit that is no number. -/
  | limitMisread {timeout : Option Nat} {e : ConfigError} : env.Says timeoutVariable (.ok timeout) →
      env.Says limitVariable (.error e) → Leads env (.error e)
  /-- Then a timeout of zero. -/
  | noTime {limit : Option Nat} : env.Says timeoutVariable (.ok (some 0)) →
      env.Says limitVariable (.ok limit) →
      Leads env (.error (.invalidValue "fetch_timeout" "0" "must be positive"))
  /-- Then a limit of zero. -/
  | noRoom {timeout : Option Nat} : env.Says timeoutVariable (.ok timeout) → timeout ≠ some 0 →
      env.Says limitVariable (.ok (some 0)) →
      Leads env (.error (.invalidValue "max_buffered_bytes" "0" "must be positive"))
  /-- Otherwise the settings are what the variables say. -/
  | settings {timeout limit : Option Nat} {agent : String} :
      env.Says timeoutVariable (.ok timeout) → timeout ≠ some 0 →
      env.Says limitVariable (.ok limit) → limit ≠ some 0 → env.Names agent →
      Leads env (.ok ⟨timeout.map .ofSeconds, limit, agent⟩)

/-- A variable says nothing, or a number that is not zero. -/
def Environment.Accepts (env : Environment) (name : String) : Prop :=
  env.Says name (.ok none) ∨ ∃ n, 0 < n ∧ env.Says name (.ok (some n))

variable {env : Environment}

theorem ofEnvironment_of_misread_timeout {e : ConfigError}
    (h : env.Says timeoutVariable (.error e)) : ofEnvironment env = .error e := by
  unfold ofEnvironment
  rw [readNumber_eq_iff.2 h]

theorem ofEnvironment_of_misread_limit {timeout : Option Nat} {e : ConfigError}
    (h : env.Says timeoutVariable (.ok timeout)) (h' : env.Says limitVariable (.error e)) :
    ofEnvironment env = .error e := by
  unfold ofEnvironment
  rw [readNumber_eq_iff.2 h, readNumber_eq_iff.2 h']

/-- Where both numbers are read, the settings are validated. -/
theorem ofEnvironment_of_said {timeout limit : Option Nat}
    (h : env.Says timeoutVariable (.ok timeout)) (h' : env.Says limitVariable (.ok limit)) :
    ofEnvironment env =
      if timeout = some 0 then .error (.invalidValue "fetch_timeout" "0" "must be positive")
      else if limit = some 0 then
        .error (.invalidValue "max_buffered_bytes" "0" "must be positive")
      else .ok ⟨timeout.map .ofSeconds, limit, agentOf env⟩ := by
  have hvalidate := validate_of_agent (c := ⟨timeout.map .ofSeconds, limit, agentOf env⟩)
    (names_agentOf env).not_areBlank
  simp only [map_ofSeconds_eq_zero] at hvalidate
  unfold agentOf at hvalidate ⊢
  unfold ofEnvironment
  rw [readNumber_eq_iff.2 h, readNumber_eq_iff.2 h']
  dsimp only at hvalidate ⊢
  rw [hvalidate]
  by_cases htime : timeout = some 0
  · simp only [if_pos htime]
  by_cases hlimit : limit = some 0
  · simp only [if_neg htime, if_pos hlimit]
  · simp only [if_neg htime, if_neg hlimit]

theorem ofEnvironment_of_leads {result : Except ConfigError Config} (h : env.Leads result) :
    ofEnvironment env = result := by
  cases h with
  | timeoutMisread h => exact ofEnvironment_of_misread_timeout h
  | limitMisread h h' => exact ofEnvironment_of_misread_limit h h'
  | noTime h h' => rw [ofEnvironment_of_said h h', if_pos rfl]
  | noRoom h htime h' => rw [ofEnvironment_of_said h h', if_neg htime, if_pos rfl]
  | settings h htime h' hlimit hagent =>
    rw [ofEnvironment_of_said h h', if_neg htime, if_neg hlimit, agentOf_eq_iff.2 hagent]

theorem leads_ofEnvironment (env : Environment) : env.Leads (ofEnvironment env) := by
  cases h : readNumber env timeoutVariable with
  | error e =>
    have hsays := readNumber_eq_iff.1 h
    rw [ofEnvironment_of_misread_timeout hsays]
    exact .timeoutMisread hsays
  | ok timeout =>
    have hsays := readNumber_eq_iff.1 h
    cases h' : readNumber env limitVariable with
    | error e =>
      have hsays' := readNumber_eq_iff.1 h'
      rw [ofEnvironment_of_misread_limit hsays hsays']
      exact .limitMisread hsays hsays'
    | ok limit =>
      have hsays' := readNumber_eq_iff.1 h'
      rw [ofEnvironment_of_said hsays hsays']
      by_cases htime : timeout = some 0
      · rw [if_pos htime]
        exact .noTime (htime ▸ hsays) hsays'
      by_cases hlimit : limit = some 0
      · rw [if_neg htime, if_pos hlimit]
        exact .noRoom hsays htime (hlimit ▸ hsays')
      · rw [if_neg htime, if_neg hlimit]
        exact .settings hsays htime hsays' hlimit (names_agentOf env)

theorem Environment.accepts_iff {name : String} :
    env.Accepts name ↔ ∃ number, env.Says name (.ok number) ∧ number ≠ some 0 := by
  constructor
  · rintro (h | ⟨n, hpos, h⟩)
    · exact ⟨none, h, nofun⟩
    · exact ⟨some n, h, fun hzero => absurd (Option.some.inj hzero) (by omega)⟩
  · rintro ⟨number, h, hnot⟩
    cases number with
    | none => exact .inl h
    | some n =>
      have hpos : n ≠ 0 := fun hzero => hnot (congrArg some hzero)
      exact .inr ⟨n, Nat.pos_of_ne_zero hpos, h⟩

/-- Settings come of an environment if each of its two numbers is missing or positive, and they are
what it says; otherwise the first of four faults is reported. -/
theorem ofEnvironment_exact (env : Environment) :
    ((∃ c, ofEnvironment env = .ok c) ↔
      env.Accepts timeoutVariable ∧ env.Accepts limitVariable) ∧
    ∀ result, ofEnvironment env = result ↔ env.Leads result := by
  refine ⟨?_, fun result => ⟨fun h => h ▸ leads_ofEnvironment env, ofEnvironment_of_leads⟩⟩
  rw [Environment.accepts_iff, Environment.accepts_iff]
  constructor
  · rintro ⟨c, hc⟩
    have hleads := leads_ofEnvironment env
    rw [hc] at hleads
    cases hleads with
    | settings h htime h' hlimit => exact ⟨⟨_, h, htime⟩, _, h', hlimit⟩
  · rintro ⟨⟨timeout, h, htime⟩, limit, h', hlimit⟩
    exact ⟨_, ofEnvironment_of_leads (.settings h htime h' hlimit (names_agentOf env))⟩

/-- A limit that is no number is reported before a timeout of zero. -/
example :
    let env : Environment := fun name =>
      if name = timeoutVariable then some (Utf8.ofString " 0 ")
      else if name = limitVariable then some (Utf8.ofString " 1k ")
      else none
    ofEnvironment env =
      .error (.invalidValue limitVariable " 1k " "invalid digit found in string") := rfl

end AssetCache.Config
