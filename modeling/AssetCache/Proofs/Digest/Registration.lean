import AssetCache.Proofs.Digest.Registry

/-!
# Registering hashers

Hashers are registered one after another, up to the first that has no identity or shares its own or
its name with an earlier one.  What is built is the same in whichever order they come, and it can be
asked for a hasher by either: the identities and the names in use belong to each other one to one.

A registration puts a hasher into one map and its name into the other.  So the list of the hashers
grows by just this one (`perm_insert`), and two registries with the same hashers have the same maps
(`eq_of_hashers_perm`).

Results:
1. `ofList_eq_error_iff`: a chain of registrations fails at the first hasher that is refused.
2. `ofList_of_perm`: where it does not fail, the order does not matter.
3. `answers_of_perm`: what a registry holds in both maps and answers to each question, by what was
   registered.
4. `registration_coherent`: all of it together.
-/

namespace AssetCache.Registry

/-- A hasher may not follow these: it has no identity, or shares its own or its name with one. -/
def Refused (before : List Hasher) (h : Hasher) : Prop :=
  h.function = .unknown ∨ ∃ g ∈ before, g.function = h.function ∨ g.name = h.name

/-- Among these hashers, each may follow those before it. -/
def Accepted (hs : List Hasher) : Prop :=
  ∀ before h after, hs = before ++ h :: after → ¬ Refused before h

/-! ## One registration -/

theorem mem_hashers_insert {r : Registry} {h : Hasher} (hadmits : r.admits h) {g : Hasher} :
    g ∈ (r.insert h hadmits).hashers ↔ g = h ∨ g ∈ r.hashers := by
  rw [mem_hashers_iff, mem_hashers_iff]
  show addFunction h r.byFunction g.function = some g ↔ _
  unfold addFunction
  split
  next hsame =>
    -- no hasher had the identity before
    rw [hsame, hadmits.2.1]
    simp [eq_comm]
  next hother =>
    refine ⟨.inr, fun hg => hg.resolve_left ?_⟩
    rintro rfl
    exact hother rfl

theorem not_mem_of_admits {r : Registry} {h : Hasher} (hadmits : r.admits h) : h ∉ r.hashers :=
  fun hmem => byFunction_eq_none_iff.1 hadmits.2.1 h hmem rfl

theorem perm_insert {r : Registry} {h : Hasher} (hadmits : r.admits h) :
    (r.insert h hadmits).hashers.Perm (h :: r.hashers) := by
  refine (List.perm_ext_iff_of_nodup (hashers_nodup _) ?_).2 fun g => ?_
  · exact List.nodup_cons.2 ⟨not_mem_of_admits hadmits, r.hashers_nodup⟩
  · rw [mem_hashers_insert, List.mem_cons]

theorem admits_iff {r : Registry} {before : List Hasher} (hperm : r.hashers.Perm before)
    {h : Hasher} : r.admits h ↔ ¬ Refused before h := by
  unfold admits Refused
  rw [byFunction_eq_none_iff, byName_eq_none_iff]
  simp only [hperm.mem_iff]
  constructor
  · rintro ⟨hknown, hfunction, hname⟩ (hunknown | ⟨g, hg, hshares⟩)
    · exact hknown hunknown
    · exact hshares.elim (hfunction g hg) (hname g hg)
  · intro hnot
    exact ⟨fun hunknown => hnot (.inl hunknown), fun g hg heq => hnot (.inr ⟨g, hg, .inl heq⟩),
      fun g hg heq => hnot (.inr ⟨g, hg, .inr heq⟩)⟩

theorem register_of_refused {r : Registry} {before : List Hasher} (hperm : r.hashers.Perm before)
    {h : Hasher} (hrefused : Refused before h) :
    r.register h = .error (.duplicateRegistration h.function h.name) :=
  dif_neg fun hadmits => (admits_iff hperm).1 hadmits hrefused

theorem exists_register {r : Registry} {before : List Hasher} (hperm : r.hashers.Perm before)
    {h : Hasher} (hnot : ¬ Refused before h) :
    ∃ r', r.register h = .ok r' ∧ r'.hashers.Perm (before ++ [h]) := by
  have hadmits := (admits_iff hperm).2 hnot
  refine ⟨r.insert h hadmits, dif_pos hadmits, ?_⟩
  exact (perm_insert hadmits).trans
    ((hperm.cons h).trans (List.perm_append_singleton h before).symm)

/-! ## A chain of registrations -/

/-- Hashers of which each may follow those before it are all registered. -/
theorem foldlM_of_accepted {before hs : List Hasher} {r : Registry} (hperm : r.hashers.Perm before)
    (haccepted : ∀ earlier h later, hs = earlier ++ h :: later → ¬ Refused (before ++ earlier) h) :
    ∃ r', hs.foldlM register r = .ok r' ∧ r'.hashers.Perm (before ++ hs) := by
  induction hs generalizing before r with
  | nil => exact ⟨r, rfl, (List.append_nil before).symm ▸ hperm⟩
  | cons h rest ih =>
    have hnot : ¬ Refused before h := List.append_nil before ▸ haccepted [] h rest rfl
    obtain ⟨r₁, hregister, hperm₁⟩ := exists_register hperm hnot
    have hrest (earlier : List Hasher) (g : Hasher) (later : List Hasher)
        (hsplit : rest = earlier ++ g :: later) : ¬ Refused (before ++ [h] ++ earlier) g := by
      rw [List.append_assoc]
      exact haccepted (h :: earlier) g later (congrArg (h :: ·) hsplit)
    obtain ⟨r', hfold, hperm'⟩ := ih hperm₁ hrest
    rw [List.append_assoc] at hperm'
    exact ⟨r', by rw [List.foldlM_cons, hregister]; exact hfold, hperm'⟩

theorem exists_ofList {hs : List Hasher} (h : Accepted hs) :
    ∃ r, ofList hs = .ok r ∧ r.hashers.Perm hs := by
  have hempty : Registry.empty.hashers.Perm [] := .refl []
  exact foldlM_of_accepted hempty h

/-- A hasher that is refused ends the chain. -/
theorem ofList_of_refused {before : List Hasher} {h : Hasher} (after : List Hasher) {r : Registry}
    {e : DigestError} (hbefore : ofList before = .ok r) (hregister : r.register h = .error e) :
    ofList (before ++ h :: after) = .error e := by
  unfold ofList at hbefore ⊢
  rw [List.foldlM_append, hbefore]
  show (h :: after).foldlM register r = _
  rw [List.foldlM_cons, hregister]
  rfl

/-- If some hasher is refused then there is a first one. -/
theorem exists_first_refused {hs : List Hasher} (h : ¬ Accepted hs) :
    ∃ before g after, hs = before ++ g :: after ∧ Accepted before ∧ Refused before g := by
  unfold Accepted at h
  simp only [Classical.not_forall, Classical.not_not] at h
  obtain ⟨before, g, after, hsplit, hrefused⟩ := h
  have hshorter : before.length < hs.length := by
    rw [hsplit, List.length_append, List.length_cons]
    omega
  by_cases hbefore : Accepted before
  · exact ⟨before, g, after, hsplit, hbefore, hrefused⟩
  · obtain ⟨earlier, g', later, hearlier, haccepted, hrefused'⟩ := exists_first_refused hbefore
    refine ⟨earlier, g', later ++ g :: after, ?_, haccepted, hrefused'⟩
    rw [hsplit, hearlier, List.append_assoc, List.cons_append]
termination_by hs.length

/-- The chain fails at `h`, after those of `before` were registered. -/
structure FailsAt (hs before : List Hasher) (h : Hasher) (e : DigestError) : Prop where
  chain : ∃ after, hs = before ++ h :: after
  /-- It is the first that is refused; -/
  accepted : Accepted before
  refused : Refused before h
  /-- up to it, registration succeeds, and then it does not. -/
  built : ∃ r, ofList before = .ok r ∧ r.register h = .error e
  cause : e = .duplicateRegistration h.function h.name

theorem exists_failsAt {hs : List Hasher} (h : ¬ Accepted hs) :
    ∃ before g e, FailsAt hs before g e := by
  obtain ⟨before, g, after, rfl, haccepted, hrefused⟩ := exists_first_refused h
  obtain ⟨r, hbuilt, hperm⟩ := exists_ofList haccepted
  exact ⟨before, g, _, ⟨after, rfl⟩, haccepted, hrefused,
    ⟨r, hbuilt, register_of_refused hperm hrefused⟩, rfl⟩

theorem ofList_of_failsAt {hs before : List Hasher} {h : Hasher} {e : DigestError}
    (hfails : FailsAt hs before h e) : ofList hs = .error e := by
  obtain ⟨after, rfl⟩ := hfails.chain
  obtain ⟨r, hbuilt, hregister⟩ := hfails.built
  exact ofList_of_refused after hbuilt hregister

theorem ofList_eq_error_iff {hs : List Hasher} {e : DigestError} :
    ofList hs = .error e ↔ ∃ before h, FailsAt hs before h e := by
  constructor
  · intro herror
    by_cases haccepted : Accepted hs
    · obtain ⟨r, hr, -⟩ := exists_ofList haccepted
      exact nomatch herror.symm.trans hr
    · obtain ⟨before, h, e', hfails⟩ := exists_failsAt haccepted
      obtain rfl := Except.error.inj (herror.symm.trans (ofList_of_failsAt hfails))
      exact ⟨before, h, hfails⟩
  · rintro ⟨before, h, hfails⟩
    exact ofList_of_failsAt hfails

theorem ofList_eq_ok {hs : List Hasher} {r : Registry} (h : ofList hs = .ok r) :
    Accepted hs ∧ r.hashers.Perm hs := by
  by_cases haccepted : Accepted hs
  · obtain ⟨r', hr', hperm⟩ := exists_ofList haccepted
    obtain rfl := Except.ok.inj (h.symm.trans hr')
    exact ⟨haccepted, hperm⟩
  · obtain ⟨before, g, e, hfails⟩ := exists_failsAt haccepted
    exact nomatch h.symm.trans (ofList_of_failsAt hfails)

/-! ## The order of registrations -/

/-- Registries with the same hashers have the same maps. -/
theorem eq_of_hashers_perm {r r' : Registry} (h : r.hashers.Perm r'.hashers) : r = r' := by
  have hfunction : r.byFunction = r'.byFunction := by
    funext f
    refine Option.ext fun g => ?_
    rw [byFunction_eq_some_iff, byFunction_eq_some_iff, h.mem_iff]
  have hname : r.byName = r'.byName := by
    funext name
    refine Option.ext fun f => ?_
    rw [r.inverse, r'.inverse, hfunction]
  cases r
  cases r'
  cases hfunction
  cases hname
  rfl

/-- Which hashers may be registered one after another does not depend on their order. -/
theorem Accepted.perm {hs hs' : List Hasher} (h : Accepted hs) (hperm : hs'.Perm hs) :
    Accepted hs' := by
  obtain ⟨r, -, hr⟩ := exists_ofList h
  have hlisted := hr.trans hperm.symm
  have hdiffer : hs'.Pairwise fun a b => a.function ≠ b.function ∧ a.name ≠ b.name := by
    refine (hlisted.nodup_iff.1 r.hashers_nodup).imp_of_mem fun ha hb hne => ?_
    have ha := hlisted.mem_iff.2 ha
    have hb := hlisted.mem_iff.2 hb
    exact ⟨fun heq => hne (eq_of_function_eq ha hb heq), fun heq => hne (eq_of_name_eq ha hb heq)⟩
  rintro before g after rfl (hunknown | ⟨g', hg', hshares⟩)
  · exact identified (hlisted.mem_iff.2 (by simp)) hunknown
  · obtain ⟨hfunction, hname⟩ := (List.pairwise_append.1 hdiffer).2.2 g' hg' g List.mem_cons_self
    exact hshares.elim hfunction hname

theorem ofList_of_perm {hs hs' : List Hasher} {r : Registry} (h : ofList hs = .ok r)
    (hperm : hs'.Perm hs) : ofList hs' = .ok r := by
  obtain ⟨haccepted, hlisted⟩ := ofList_eq_ok h
  obtain ⟨r', hr', hlisted'⟩ := exists_ofList (haccepted.perm hperm)
  rw [hr', eq_of_hashers_perm (hlisted'.trans (hperm.trans hlisted.symm))]

/-! ## Questions -/

theorem get_eq_ok_iff {r : Registry} {function : DigestFunction} {h : Hasher}
    (hknown : function ≠ .unknown) :
    r.get function = .ok h ↔ h ∈ r.hashers ∧ h.function = function := by
  rw [← byFunction_eq_some_iff, get, orDefault, if_neg hknown]
  cases r.byFunction function <;> simp

theorem functionByName_of_mem {r : Registry} {h : Hasher} (hmem : h ∈ r.hashers) :
    r.functionByName h.name = h.function := by
  rw [functionByName, byName_of_mem hmem, Option.getD_some]

/-- A name that stands for a function is the name of the hasher for it. -/
theorem exists_of_functionByName {r : Registry} {name : String}
    (h : r.functionByName name ≠ .unknown) :
    ∃ g ∈ r.hashers, g.name = name ∧ g.function = r.functionByName name := by
  unfold functionByName at h ⊢
  cases hstands : r.byName name with
  | none => exact absurd (congrArg (Option.getD · _) hstands) h
  | some f => exact byName_eq_some_iff.1 hstands

theorem getByName_eq_ok_iff {r : Registry} {name : String} {h : Hasher} :
    r.getByName name = .ok h ↔ h ∈ r.hashers ∧ h.name = name := by
  constructor
  · intro hget
    rw [getByName] at hget
    split at hget
    next => exact nomatch hget
    next hknown =>
      obtain ⟨g, hg, rfl, hfunction⟩ := exists_of_functionByName hknown
      obtain ⟨hmem, hsame⟩ := (get_eq_ok_iff hknown).1 hget
      obtain rfl := eq_of_function_eq hmem hg (hsame.trans hfunction.symm)
      exact ⟨hmem, rfl⟩
  · rintro ⟨hmem, rfl⟩
    rw [getByName, functionByName_of_mem hmem]
    exact (if_neg (identified hmem)).trans (get_function hmem)

theorem isSupported_iff {r : Registry} {name : String} :
    r.isSupported name = true ↔ r.functionByName name ≠ .unknown := by
  rw [isSupported_iff_exists]
  constructor
  · rintro ⟨g, hg, rfl⟩
    rw [functionByName_of_mem hg]
    exact identified hg
  · intro hknown
    obtain ⟨g, hg, hname, -⟩ := exists_of_functionByName hknown
    exact ⟨g, hg, hname⟩

/-- What a registry holds and answers, where just these hashers were registered. -/
structure Answers (r : Registry) (hs : List Hasher) : Prop where
  /-- Both maps hold them, -/
  found : ∀ function h, r.byFunction function = some h ↔ h ∈ hs ∧ h.function = function
  stands : ∀ name function, r.byName name = some function ↔
    ∃ h ∈ hs, h.name = name ∧ h.function = function
  /-- and each is the inverse of the other. -/
  maps : Inverse r.byFunction r.byName
  byName : ∀ name h, r.getByName name = .ok h ↔ h ∈ hs ∧ h.name = name
  byFunction : ∀ function h, function ≠ .unknown →
    (r.get function = .ok h ↔ h ∈ hs ∧ h.function = function)
  default : r.get .unknown = r.get .sha256
  supported : ∀ name, r.isSupported name = true ↔ r.functionByName name ≠ .unknown
  /-- A name stands for the function of the hasher that has it. -/
  inverse : ∀ name function, function ≠ .unknown →
    (r.functionByName name = function ↔ ∃ h, r.get function = .ok h ∧ h.name = name)
  /-- Each hasher is listed, and once, by its wire number. -/
  listed : r.hashers.Perm hs
  once : r.hashers.Nodup
  ascending : r.hashers.Pairwise fun a b => a.function.id < b.function.id
  size : r.size = hs.length
  /-- Each name is listed, and once. -/
  names : ∀ name, name ∈ r.names ↔ ∃ h ∈ hs, h.name = name
  namesOnce : r.names.Nodup

theorem answers_of_perm {r : Registry} {hs : List Hasher} (hperm : r.hashers.Perm hs) :
    Answers r hs where
  found function h := by rw [byFunction_eq_some_iff, hperm.mem_iff]
  stands name function := by simp only [byName_eq_some_iff, hperm.mem_iff]
  maps := r.inverse
  byName name h := by rw [getByName_eq_ok_iff, hperm.mem_iff]
  byFunction function h hknown := by rw [get_eq_ok_iff hknown, hperm.mem_iff]
  default := rfl
  supported _ := isSupported_iff
  inverse name function hknown := by
    constructor
    · rintro rfl
      obtain ⟨g, hg, hname, hfunction⟩ := exists_of_functionByName hknown
      exact ⟨g, (get_eq_ok_iff hknown).2 ⟨hg, hfunction⟩, hname⟩
    · rintro ⟨h, hget, rfl⟩
      obtain ⟨hmem, hfunction⟩ := (get_eq_ok_iff hknown).1 hget
      rw [functionByName_of_mem hmem, hfunction]
  listed := hperm
  once := r.hashers_nodup
  ascending := r.ascending
  size := hperm.length_eq
  names name := by simp only [mem_names_iff, isSupported_iff_exists, hperm.mem_iff]
  namesOnce := r.names_nodup

/-- A chain of registrations fails at the first hasher that has no identity or shares its own or its
name with an earlier one, and only there.  Where it does not fail, the registry answers by just what
was registered, and is the same whatever the order. -/
theorem registration_coherent (hs : List Hasher) :
    (∀ e, ofList hs = .error e ↔ ∃ before h, FailsAt hs before h e) ∧
    (∀ r, ofList hs = .ok r →
      Answers r hs ∧ ∀ hs' : List Hasher, hs'.Perm hs → ofList hs' = .ok r) := by
  refine ⟨fun e => ofList_eq_error_iff, fun r hr => ?_⟩
  obtain ⟨-, hperm⟩ := ofList_eq_ok hr
  exact ⟨answers_of_perm hperm, fun hs' hperm' => ofList_of_perm hr hperm'⟩

/-- Two hashers are registered in either order, with the same result.  A third one that has the name
of the second is refused. -/
theorem registration_coherent_of_shared_name :
    let first := Hasher.ofAlgorithm .sha1 .sha1
    let second : Hasher := ⟨.md5, "digest", .sha256, "digest"⟩
    let third : Hasher := ⟨.sha512, "digest", .sha512, "other"⟩
    (∃ r, ofList [first, second] = .ok r ∧ ofList [second, first] = .ok r ∧
      r.getByName "digest" = .ok second) ∧
    ofList [first, second, third] = .error (.duplicateRegistration .sha512 "digest") := by
  intro first second third
  obtain ⟨r, hr⟩ : ∃ r, ofList [first, second] = .ok r := ⟨_, rfl⟩
  obtain ⟨hanswers, horder⟩ := (registration_coherent [first, second]).2 r hr
  obtain ⟨haccepted, hperm⟩ := ofList_eq_ok hr
  have hrefused : Refused [first, second] third := .inr ⟨second, by simp, .inr rfl⟩
  have hfails : FailsAt [first, second, third] [first, second] third
      (.duplicateRegistration .sha512 "digest") :=
    ⟨⟨[], rfl⟩, haccepted, hrefused, ⟨r, hr, register_of_refused hperm hrefused⟩, rfl⟩
  exact ⟨⟨r, hr, horder [second, first] (.swap first second []),
      (hanswers.byName "digest" second).2 ⟨by simp, rfl⟩⟩,
    ((registration_coherent [first, second, third]).1 _).2 ⟨_, _, hfails⟩⟩

end AssetCache.Registry
