import AssetCache.Digest.Hasher
import AssetCache.Text.Quoted

/-!
# The registry of hashers

A registry finds a hasher by its wire identity, and a wire identity by the name of its hasher.  It
is built once, by registering hashers one after another; two that share an identity or a name are
refused.

Results: 1. each map of a registry is the inverse of the other: this is a field of `Registry`, kept
by `register`.  2. `mem_hashers_iff`, `ascending`: the list of the hashers holds those of the map,
by their wire numbers.
-/

namespace AssetCache

/-- A name stands for just the identity whose hasher has it. -/
def Registry.Inverse (byFunction : DigestFunction → Option Hasher)
    (byName : String → Option DigestFunction) : Prop :=
  ∀ name f, byName name = some f ↔ ∃ h, byFunction f = some h ∧ h.name = name

/-- The hashers in use. -/
structure Registry where
  /-- The hasher with a wire identity, if there is one. -/
  byFunction : DigestFunction → Option Hasher
  /-- The wire identity of the hasher with a name, if there is one. -/
  byName : String → Option DigestFunction
  /-- What is found by an identity has it. -/
  keyed : ∀ f h, byFunction f = some h → h.function = f
  /-- Each has an identity. -/
  unset : byFunction .unknown = none
  inverse : Registry.Inverse byFunction byName

namespace Registry

def empty : Registry where
  byFunction _ := none
  byName _ := none
  keyed _ _ h := nomatch h
  unset := rfl
  inverse _ _ := Iff.intro nofun fun ⟨_, h, _⟩ => nomatch h

/-- Whether a hasher may join: it has an identity, and shares neither that nor its name. -/
def admits (r : Registry) (h : Hasher) : Prop :=
  h.function ≠ .unknown ∧ r.byFunction h.function = none ∧ r.byName h.name = none

instance (r : Registry) (h : Hasher) : Decidable (r.admits h) := by
  unfold admits; infer_instance

/-- A map with one more hasher under its identity. -/
def addFunction (h : Hasher) (byFunction : DigestFunction → Option Hasher) (f : DigestFunction) :
    Option Hasher :=
  if f = h.function then some h else byFunction f

/-- A map with one more name. -/
def addName (h : Hasher) (byName : String → Option DigestFunction) (name : String) :
    Option DigestFunction :=
  if name = h.name then some h.function else byName name

theorem inverse_add {r : Registry} {h : Hasher} (hadmits : r.admits h) :
    Inverse (addFunction h r.byFunction) (addName h r.byName) := by
  obtain ⟨-, hfunction, hname⟩ := hadmits
  intro name f
  unfold addFunction addName
  by_cases hn : name = h.name <;> by_cases hf : f = h.function
  · simp [hn, hf]
  · -- the name is new, so no hasher that was there has it
    subst hn
    have hnone : ¬ ∃ g, r.byFunction f = some g ∧ g.name = h.name := by
      rw [← r.inverse, hname]
      exact nofun
    simpa [hf, Ne.symm hf] using hnone
  · -- the identity is new, so no name that was there stands for it
    subst hf
    have hnone : r.byName name ≠ some h.function := by
      intro hsome
      obtain ⟨g, hg, -⟩ := (r.inverse _ _).1 hsome
      exact nomatch hfunction.symm.trans hg
    simpa [hn, Ne.symm hn] using hnone
  · simpa [hn, hf] using r.inverse name f

/-- A registry with one more hasher. -/
def insert (r : Registry) (h : Hasher) (hadmits : r.admits h) : Registry where
  byFunction := addFunction h r.byFunction
  byName := addName h r.byName
  keyed f g hg := by
    unfold addFunction at hg
    split at hg
    next hf => exact Option.some.inj hg ▸ hf.symm
    next => exact r.keyed f g hg
  unset := (if_neg (Ne.symm hadmits.1)).trans r.unset
  inverse := inverse_add hadmits

def register (r : Registry) (h : Hasher) : Except DigestError Registry :=
  if hadmits : r.admits h then .ok (r.insert h hadmits)
  else .error (.duplicateRegistration h.function h.name)

/-- Register hashers in order, up to the first that is refused. -/
def ofList (hs : List Hasher) : Except DigestError Registry := hs.foldlM register empty

/-- The registry of all built-in digests. -/
def standard : Registry :=
  empty
    |>.insert (.ofAlgorithm .sha256 .sha256) (by decide)
    |>.insert (.ofAlgorithm .sha1 .sha1) (by decide)
    |>.insert (.ofAlgorithm .md5 .md5) (by decide)
    |>.insert (.ofAlgorithm .sha384 .sha384) (by decide)
    |>.insert (.ofAlgorithm .sha512 .sha512) (by decide)
    |>.insert (.ofAlgorithm .blake3 .blake3) (by decide)

/-- The hashers in use, by ascending wire number. -/
def hashers (r : Registry) : List Hasher := DigestFunction.known.filterMap r.byFunction

theorem ne_unknown_of_found {r : Registry} {f : DigestFunction} {h : Hasher}
    (hfound : r.byFunction f = some h) : f ≠ .unknown := by
  rintro rfl
  exact Option.some_ne_none h (hfound.symm.trans r.unset)

theorem mem_hashers_iff {r : Registry} {h : Hasher} :
    h ∈ r.hashers ↔ r.byFunction h.function = some h := by
  rw [hashers, List.mem_filterMap]
  constructor
  · rintro ⟨f, -, hfound⟩
    exact (r.keyed f h hfound).symm ▸ hfound
  · intro hfound
    exact ⟨h.function, DigestFunction.mem_known_iff.2 (ne_unknown_of_found hfound), hfound⟩

theorem ascending (r : Registry) :
    r.hashers.Pairwise fun a b => a.function.id < b.function.id := by
  refine List.pairwise_filterMap.2 (DigestFunction.known_ascending.imp fun hlt g hg h hh => ?_)
  rwa [r.keyed _ g hg, r.keyed _ h hh]

/-- The function that is meant where none is set. -/
def orDefault (function : DigestFunction) : DigestFunction :=
  if function = .unknown then .sha256 else function

/-- The hasher for a function; SHA-256's where none is set. -/
def get (r : Registry) (function : DigestFunction) : Except DigestError Hasher :=
  match r.byFunction (orDefault function) with
  | some h => .ok h
  | none => .error (.unsupportedFunction (orDefault function))

/-- The wire identity of the hasher with a name, or `unknown`. -/
def functionByName (r : Registry) (name : String) : DigestFunction :=
  (r.byName name).getD .unknown

def getByName (r : Registry) (name : String) : Except DigestError Hasher :=
  let function := r.functionByName name
  if function = .unknown then .error (.unknownAlgorithm name) else r.get function

/-- Whether a hasher has the name. -/
def isSupported (r : Registry) (name : String) : Bool := (r.byName name).isSome

/-- The function whose digests have this many octets; where two do, the older one. -/
def functionOfLength? : Nat → Option DigestFunction
  | 32 => some .md5
  | 40 => some .sha1
  | 64 => some .sha256
  | 96 => some .sha384
  | 128 => some .sha512
  | _ => none

/-- Guess the hasher of a bare digest from its length. -/
def infer? (r : Registry) (hash : String) : Option Hasher :=
  (functionOfLength? (Utf8.length hash)).bind r.byFunction

def size (r : Registry) : Nat := r.hashers.length

def isEmpty (r : Registry) : Bool := r.hashers.isEmpty

/-- The names in use, in the order of their characters. -/
def names (r : Registry) : List String :=
  (r.hashers.map (·.name)).mergeSort fun a b => !decide (b < a)

/-- One line that lists the names, for diagnostics. -/
def summary (r : Registry) : String :=
  "HasherRegistry \x7b names: [" ++ ", ".intercalate (r.names.map Quoted.string) ++ "] \x7d"

end Registry

end AssetCache
