import AssetCache.Client
import AssetCache.Proofs.Config.Environment

/-!
# Clients from settings

Settings are validated before a client is built with them, but the two do not ask the same of the
name: validation wants one character that is no blank, and a header may hold no control but the tab.
So a name with a control in it and a character that is no blank passes validation, and then every
fetch fails.  All that is asked of what builds clients is to refuse the octets that no header may
hold; the octets of a name hold a control just where its characters do.

Results:
1. `exists_control_ofString_iff`: the octets of a text hold a control just if its characters do.
2. `HttpFetcher.built_iff`, `HttpFetcher.refused_iff`, `Config.canFetch_iff`: a client is built just
   where the name holds no control.
3. `Config.validated_fetches_unless_control`: which settings are valid and yet cannot fetch, and
   which environments give them.
-/

namespace AssetCache

variable {γ : Type} {build : ClientBuilder γ} {c : Config}

/-! ## Controls -/

/-- The numbers of the controls in ASCII other than the tab. -/
def IsControl (n : Nat) : Prop := n < 0x20 ∧ n ≠ 0x09 ∨ n = 0x7f

instance (n : Nat) : Decidable (IsControl n) :=
  inferInstanceAs (Decidable (n < 0x20 ∧ n ≠ 0x09 ∨ n = 0x7f))

/-- A text with a control among its characters. -/
def HoldsControl (s : String) : Prop := ∃ char ∈ s.toList, IsControl char.toNat

instance (s : String) : Decidable (HoldsControl s) :=
  decidable_of_iff (s.toList.any fun char => IsControl char.toNat) (by simp [HoldsControl])

theorem IsControl.lt {n : Nat} (h : IsControl n) : n < 128 := by
  unfold IsControl at h
  omega

theorem exists_control_octets_iff {char : Char} :
    (∃ b ∈ String.utf8EncodeChar char, IsControl b.toNat) ↔ IsControl char.toNat := by
  by_cases hascii : char.toNat < 128
  · have hoctet : (UInt8.ofNat char.toNat).toNat = char.toNat :=
      UInt8.toNat_ofNat_of_lt' (show _ < 256 by omega)
    simp only [Utf8.octets_of_ascii hascii, List.mem_singleton, exists_eq_left, hoctet]
  -- Neither a character outside ASCII nor any octet of it is a control.
  · constructor
    · rintro ⟨b, hb, hcontrol⟩
      have hle := Utf8.le_of_mem_octets (Nat.not_lt.1 hascii) b hb
      exact absurd hcontrol.lt (Nat.not_lt.2 hle)
    · exact fun hcontrol => absurd hcontrol.lt hascii

theorem exists_control_ofString_iff {s : String} :
    (∃ b ∈ Utf8.ofString s, IsControl b.toNat) ↔ HoldsControl s := by
  constructor
  · rintro ⟨b, hb, hcontrol⟩
    obtain ⟨char, hchar, hmem⟩ := List.mem_flatMap.1 hb
    exact ⟨char, hchar, exists_control_octets_iff.1 ⟨b, hmem, hcontrol⟩⟩
  · rintro ⟨char, hchar, hcontrol⟩
    obtain ⟨b, hmem, hb⟩ := exists_control_octets_iff.2 hcontrol
    exact ⟨b, List.mem_flatMap.2 ⟨char, hchar, hmem⟩, hb⟩

/-! ## Building -/

/-- Clients are refused for their names alone: for an octet that no header may hold. -/
def ClientBuilder.RefusesControls (build : ClientBuilder γ) : Prop :=
  ∀ agent timeout, (∃ reason, build agent timeout = .error reason) ↔
    ∃ b ∈ Utf8.ofString agent, IsControl b.toNat

namespace HttpFetcher

theorem refused_iff (hbuild : build.RefusesControls) :
    (∃ reason, ofConfig build c = .error (.client reason)) ↔ HoldsControl c.userAgent := by
  rw [← exists_control_ofString_iff, ← hbuild c.userAgent c.fetchTimeout]
  unfold ofConfig
  cases build c.userAgent c.fetchTimeout with
  | ok client => simp
  | error reason => simp

theorem built_iff (hbuild : build.RefusesControls) :
    (∃ fetcher, ofConfig build c = .ok fetcher) ↔ ¬ HoldsControl c.userAgent := by
  rw [← refused_iff hbuild]
  unfold ofConfig
  cases build c.userAgent c.fetchTimeout with
  | ok client => simp
  | error reason => simp

end HttpFetcher

namespace Config

theorem isHeaderOctet_iff {b : UInt8} : isHeaderOctet b = true ↔ ¬ IsControl b.toNat := by
  simp only [isHeaderOctet, Bool.and_eq_true, Bool.or_eq_true, decide_eq_true_eq, ne_eq,
    UInt8.le_iff_toNat_le, ← UInt8.toNat_inj, UInt8.reduceToNat, IsControl]
  omega

theorem all_isHeaderOctet_iff {s : String} :
    (Utf8.ofString s).all isHeaderOctet = true ↔ ¬ HoldsControl s := by
  rw [← exists_control_ofString_iff, List.all_eq_true]
  simp only [isHeaderOctet_iff, not_exists, not_and]

theorem canFetch_iff : c.canFetch = true ↔ ¬ HoldsControl c.userAgent := all_isHeaderOctet_iff

/-- A name with a control in it was set by a variable: the usual one has none. -/
theorem Environment.Names.holds_of_control {env : Environment} {agent : String}
    (h : env.Names agent) (hcontrol : HoldsControl agent) : env.Holds agentVariable agent := by
  cases h with
  | given hholds => exact hholds
  | usual => exact absurd hcontrol (by decide)

/-- What comes of an environment is valid, and has its name. -/
theorem valid_of_ofEnvironment {env : Environment} (h : ofEnvironment env = .ok c) :
    c.validate = .ok () ∧ env.Names c.userAgent := by
  have hleads := leads_ofEnvironment env
  rw [h] at hleads
  cases hleads with
  | settings _ htime _ hlimit hnames =>
    exact ⟨validate_eq_ok_iff.2 ⟨mt map_ofSeconds_eq_zero.1 htime, hlimit, hnames.not_areBlank⟩,
      hnames⟩

/-- A client is built just where there is no control in the name, and validation does not ask for
that: of the settings that pass it, those with a control in the name are refused.  Settings from an
environment always pass it, and are refused just if the variable of the name holds a control. -/
theorem validated_fetches_unless_control (hbuild : build.RefusesControls) :
    (∀ c : Config, (∃ fetcher, HttpFetcher.ofConfig build c = .ok fetcher) ↔
      ¬ HoldsControl c.userAgent) ∧
    (∀ c : Config, (c.validate = .ok () ∧
        ∃ reason, HttpFetcher.ofConfig build c = .error (.client reason)) ↔
      c.fetchTimeout ≠ some .zero ∧ c.maxBufferedBytes ≠ some 0 ∧
        ¬ Blank.AreBlank c.userAgent.toList ∧ HoldsControl c.userAgent) ∧
    ∀ (env : Environment) (c : Config), ofEnvironment env = .ok c →
      c.validate = .ok () ∧
        ((∃ reason, HttpFetcher.ofConfig build c = .error (.client reason)) ↔
          env.Holds agentVariable c.userAgent ∧ HoldsControl c.userAgent) := by
  refine ⟨fun c => HttpFetcher.built_iff hbuild, fun c => ?_, fun env c hc => ?_⟩
  · rw [HttpFetcher.refused_iff hbuild, validate_eq_ok_iff]
    simp only [and_assoc]
  · obtain ⟨hvalid, hnames⟩ := valid_of_ofEnvironment hc
    refine ⟨hvalid, ?_⟩
    rw [HttpFetcher.refused_iff hbuild]
    exact ⟨fun hcontrol => ⟨hnames.holds_of_control hcontrol, hcontrol⟩, fun h => h.2⟩

/-- What looks at nothing but whether the name fits into a header. -/
def headerBuilder : ClientBuilder Unit := fun agent _ =>
  if (Utf8.ofString agent).all isHeaderOctet then .ok () else .error "builder error"

theorem refusesControls_headerBuilder : headerBuilder.RefusesControls := by
  intro agent timeout
  rw [exists_control_ofString_iff]
  unfold headerBuilder
  split
  next h => exact iff_of_false (fun ⟨_, hreason⟩ => nomatch hreason) (all_isHeaderOctet_iff.1 h)
  next h => exact iff_of_true ⟨_, rfl⟩ (Classical.not_not.1 (mt all_isHeaderOctet_iff.2 h))

/-- Two words make a name, and two lines make one that is valid and by which nothing is fetched. -/
theorem validated_fetches_unless_control_of_lines :
    let words : Config := { userAgent := "a b" }
    let lines : Config := { userAgent := "a\nb" }
    headerBuilder.RefusesControls ∧
      (∃ fetcher, HttpFetcher.ofConfig headerBuilder words = .ok fetcher) ∧
      lines.validate = .ok () ∧
        ∃ reason, HttpFetcher.ofConfig headerBuilder lines = .error (.client reason) := by
  obtain ⟨hbuilt, hrefused, -⟩ := validated_fetches_unless_control refusesControls_headerBuilder
  refine ⟨refusesControls_headerBuilder, (hbuilt _).2 (by decide), (hrefused _).2 ?_⟩
  exact ⟨by decide, by decide, fun h => absurd (h 'a' (by decide)) (by decide), by decide⟩

/-- Two lines are taken from an environment and are valid, but no client is built with them. -/
theorem valid_settings_without_client :
    let env : Environment := fun name =>
      if name = agentVariable then some (Utf8.ofString "a\nb") else none
    let c : Config := { userAgent := "a\nb" }
    headerBuilder.RefusesControls ∧ ofEnvironment env = .ok c ∧ c.validate = .ok () ∧
      HttpFetcher.ofConfig headerBuilder c = .error (.client "builder error") :=
  ⟨refusesControls_headerBuilder, rfl, rfl, rfl⟩

end Config

end AssetCache
