import AssetCache.Digest.Registry
import AssetCache.Entry.Key
import AssetCache.Proofs.Digest.Hash

/-!
# Instances and their keys

The key under which an instance keeps the result of an action is the SHA-256 of the key of the
action and the name of the instance, with nothing between them.  Keys of one length end in the same
place, so that instances with digests of one size share no key.  Where one digest is larger, the
digits by which its key is longer may be those with which the name of the other instance begins, and
then both make the same message.

Results:
1. `validate_remapKey`: which hashers have the key of an instance as a digest.
2. `remapKey_eq_iff`: two instances have one key if they are one and the action is, or if digits are
   moved.
3. `instances_disjoint_unless_moved`: two instances share no key unless digits are moved.
4. `remapKey_ne_of_size_eq`: with digests of one size they share none.
-/

namespace AssetCache.Entry

variable {g h : Hasher} {key key' name name' : String}

/-- What is hashed for the key of an action and the name of an instance. -/
def message (key name : String) : Bytes := Utf8.ofString key ++ Utf8.ofString name

theorem remapKey_of_name (hname : name ≠ "") :
    remapKey key name = Digest.Algorithm.sha256.hash (message key name) :=
  if_neg fun hempty => hname (String.isEmpty_iff.1 hempty)

/-- The key of an instance with a name is a digest of the hashers that have digests of the size of
SHA-256, whatever the key of the action is a digest of, and of no others. -/
theorem validate_remapKey (h : Hasher) (key : String) (hname : name ≠ "") :
    h.validate (remapKey key name) =
      if h.size = Digest.Algorithm.sha256.size then .ok ()
      else .error (.invalidLength h.name 64 (h.size * 2)) := by
  have hlength := Digest.Algorithm.sha256.length_digest (message key name)
  rw [remapKey_of_name hname, Digest.Algorithm.hash, Hasher.validate_encode, hlength]
  simp only [eq_comm (b := h.size)]
  rfl

/-- SHA-256 has one digest for both messages only where they are one. -/
def Distinguished (m m' : Bytes) : Prop :=
  Digest.Algorithm.sha256.digest m = Digest.Algorithm.sha256.digest m' → m = m'

theorem message_eq_iff :
    message key name = message key' name' ↔
      key.toList ++ name.toList = key'.toList ++ name'.toList := by
  unfold message
  rw [← Utf8.ofString_append, ← Utf8.ofString_append, ← String.toList_append,
    ← String.toList_append]
  exact ⟨fun heq => congrArg String.toList (Utf8.ofString_injective heq),
    fun heq => congrArg Utf8.ofString (String.toList_inj.1 heq)⟩

/-- Instances with names have one key where they hash one message. -/
theorem remapKey_eq_iff_message (hname : name ≠ "") (hname' : name' ≠ "")
    (hsha : Distinguished (message key name) (message key' name')) :
    remapKey key name = remapKey key' name' ↔ message key name = message key' name' := by
  rw [remapKey_of_name hname, remapKey_of_name hname']
  exact ⟨fun heq => hsha (Hex.encode_injective heq), fun heq => by rw [heq]⟩

/-! ## Digits that end a key or begin a name -/

/-- The key of the larger digest ends in digits with which the name of the instance of the smaller
one begins: these are all by which the two keys and the two names differ. -/
structure Moved (g h : Hasher) (key name key' name' : String) (digits : List Char) : Prop where
  key_eq : key'.toList = key.toList ++ digits
  name_eq : name.toList = digits ++ name'.toList
  lower : ∀ c ∈ digits, Hex.isLowerDigit c = true
  /-- Two for each octet by which the digests differ, of which there are some. -/
  length_eq : digits.length = (h.size - g.size) * 2
  smaller : g.size < h.size

theorem Moved.message_eq {digits : List Char} (hmoved : Moved g h key name key' name' digits) :
    message key name = message key' name' := by
  rw [message_eq_iff, hmoved.key_eq, hmoved.name_eq, List.append_assoc]

/-- Digits that stand behind a digest in a larger one, and before a name in another. -/
theorem moved_of_append (hkey : g.validate key = .ok ()) (hkey' : h.validate key' = .ok ())
    {digits : List Char} (happend : key'.toList = key.toList ++ digits)
    (hname : name.toList = digits ++ name'.toList) :
    key = key' ∧ name = name' ∨ Moved g h key name key' name' digits := by
  obtain ⟨hlength, -⟩ := Hasher.validate_eq_ok_iff.1 hkey
  obtain ⟨hlength', hlower⟩ := Hasher.validate_eq_ok_iff.1 hkey'
  rw [happend] at hlower
  rw [happend, List.length_append, hlength] at hlength'
  cases digits with
  | nil =>
    rw [List.append_nil] at happend
    exact .inl ⟨String.toList_inj.1 happend.symm, String.toList_inj.1 hname⟩
  | cons c rest =>
    rw [List.length_cons] at hlength'
    refine .inr ⟨happend, hname, fun d hd => hlower d (List.mem_append_right _ hd), ?_, ?_⟩
    · rw [List.length_cons]
      omega
    · omega

/-- Two instances have one key if they are one and the key of the action is, or if digits are moved
from the end of one key to the front of a name. -/
theorem remapKey_eq_iff (hkey : g.validate key = .ok ()) (hkey' : h.validate key' = .ok ())
    (hname : name ≠ "") (hname' : name' ≠ "")
    (hsha : Distinguished (message key name) (message key' name')) :
    remapKey key name = remapKey key' name' ↔
      (key = key' ∧ name = name') ∨ (∃ digits, Moved g h key name key' name' digits) ∨
        ∃ digits, Moved h g key' name' key name digits := by
  rw [remapKey_eq_iff_message hname hname' hsha]
  constructor
  · intro heq
    rcases List.append_eq_append_iff.1 (message_eq_iff.1 heq) with
      ⟨digits, happend, hrest⟩ | ⟨digits, happend, hrest⟩
    · rcases moved_of_append hkey hkey' happend hrest with hsame | hmoved
      · exact .inl hsame
      · exact .inr (.inl ⟨digits, hmoved⟩)
    · rcases moved_of_append hkey' hkey happend hrest with ⟨hsame, hsame'⟩ | hmoved
      · exact .inl ⟨hsame.symm, hsame'.symm⟩
      · exact .inr (.inr ⟨digits, hmoved⟩)
  · rintro (⟨rfl, rfl⟩ | ⟨digits, hmoved⟩ | ⟨digits, hmoved⟩)
    · rfl
    · exact hmoved.message_eq
    · exact hmoved.message_eq.symm

/-! ## Key spaces -/

/-- Two instances share no key, whatever their digests are, unless digits at the end of the larger
digest begin the name of the instance that uses the smaller one.  In just that case they do. -/
theorem instances_disjoint_unless_moved (hkey : g.validate key = .ok ())
    (hkey' : h.validate key' = .ok ()) (hname : name ≠ "") (hname' : name' ≠ "")
    (hother : name ≠ name') (hsha : Distinguished (message key name) (message key' name')) :
    remapKey key name = remapKey key' name' ↔
      (∃ digits, Moved g h key name key' name' digits) ∨
        ∃ digits, Moved h g key' name' key name digits := by
  rw [remapKey_eq_iff hkey hkey' hname hname' hsha]
  exact or_iff_right fun hsame => hother hsame.2

/-- The digest of no octets under MD5, and the same digits with eight more, which make a digest of
SHA-1; an instance with a name that begins with these eight, and one with the rest as its name. -/
theorem instances_disjoint_unless_moved_of_md5_and_sha1 :
    let g := Hasher.ofAlgorithm .md5 .md5
    let h := Hasher.ofAlgorithm .sha1 .sha1
    let key := "d41d8cd98f00b204e9800998ecf8427e"
    let key' := "d41d8cd98f00b204e9800998ecf8427edeadbeef"
    g.validate key = .ok () ∧ h.validate key' = .ok () ∧
      Moved g h key "deadbeefmain" key' "main" "deadbeef".toList ∧
      remapKey key "deadbeefmain" = remapKey key' "main" := by
  have hkey' : (Hasher.ofAlgorithm .sha1 .sha1).validate
      "d41d8cd98f00b204e9800998ecf8427edeadbeef" = .ok () := rfl
  intro g h key key'
  have hkey : g.validate key = .ok () := g.validate_empty
  have hmoved : Moved g h key "deadbeefmain" key' "main" "deadbeef".toList :=
    ⟨by decide +kernel, by decide +kernel, List.all_eq_true.1 rfl, by decide, by decide⟩
  refine ⟨hkey, hkey', hmoved, ?_⟩
  exact (instances_disjoint_unless_moved hkey hkey' (by decide) (by decide) (by decide)
    fun _ => hmoved.message_eq).2 (.inl ⟨_, hmoved⟩)

/-- Two of the built-in hashers accept keys that two instances turn into one, though they hash one
message only, so that SHA-256 has nothing to do with it. -/
theorem instances_share_key :
    ∃ g ∈ Registry.standard.hashers, ∃ h ∈ Registry.standard.hashers,
      ∃ key key' name name' : String, g.validate key = .ok () ∧ h.validate key' = .ok () ∧
        name ≠ "" ∧ name' ≠ "" ∧ name ≠ name' ∧
        Distinguished (message key name) (message key' name') ∧
        remapKey key name = remapKey key' name' := by
  have hmessage : message "d41d8cd98f00b204e9800998ecf8427e" "deadbeefmain" =
      message "d41d8cd98f00b204e9800998ecf8427edeadbeef" "main" := by decide
  refine ⟨.ofAlgorithm .md5 .md5, by decide, .ofAlgorithm .sha1 .sha1, by decide, _, _,
    "deadbeefmain", "main", rfl, rfl, by decide, by decide, by decide, fun _ => hmessage, ?_⟩
  rw [remapKey_of_name (by decide), remapKey_of_name (by decide), hmessage]

/-- Instances with digests of one size share no key. -/
theorem remapKey_ne_of_size_eq (hsize : g.size = h.size) (hkey : g.validate key = .ok ())
    (hkey' : h.validate key' = .ok ()) (hname : name ≠ "") (hname' : name' ≠ "")
    (hother : name ≠ name') (hsha : Distinguished (message key name) (message key' name')) :
    remapKey key name ≠ remapKey key' name' := by
  intro heq
  rcases (remapKey_eq_iff hkey hkey' hname hname' hsha).1 heq with
    hsame | ⟨digits, hmoved⟩ | ⟨digits, hmoved⟩
  · exact hother hsame.2
  · exact absurd hmoved.smaller (by omega)
  · exact absurd hmoved.smaller (by omega)

end AssetCache.Entry
