import AssetCache.Entry.Key
import AssetCache.Proofs.Text.Utf8

/-!
# Paths tell entries apart

A path is the directory of the kind, that of the hasher, the shard and the hash, with slashes
between them.  The kind can be read off any path, since no two of its directories begin alike.  To
read off the rest, one has to know where the parts end: where the hasher's directory has no slash in
it, the second slash of the path is the one behind it, and where the hash has none, the last slash
is the one before it.

The key by which a proxy knows an entry is the name of its kind and its hash, with a slash between
them, and tells these whatever the hash is.

Results:
1. `shard_of_two`, `shard_of_not_two`: the shard is what has two octets of the hash, or all of it.
2. `blobPath_injective_of_dir`: paths under directories without slashes differ, whatever the hashes.
3. `blobPath_injective_of_hash`: paths of hashes without slashes differ, whatever the directories.
4. `lookupKey_injective`: keys differ.
5. `entries_told_apart`: both tell the entries apart, and nothing else.
-/

namespace AssetCache.Entry

/-! ## Lists of characters with slashes between them -/

namespace BlobPathLemmas

theorem cut_first {c : Char} {a b a' b' : List Char} (ha : c ∉ a) (ha' : c ∉ a')
    (h : a ++ c :: b = a' ++ c :: b') : a = a' ∧ b = b' := by
  induction a generalizing a' with
  | nil =>
    cases a' with
    | nil => exact ⟨rfl, (List.cons.inj h).2⟩
    | cons x a' => exact absurd ((List.cons.inj h).1 ▸ List.mem_cons_self) ha'
  | cons x a ih =>
    cases a' with
    | nil => exact absurd ((List.cons.inj h).1 ▸ List.mem_cons_self) ha
    | cons y a' =>
      obtain ⟨rfl, htail⟩ := List.cons.inj h
      obtain ⟨rfl, rfl⟩ := ih (fun hm => ha (List.mem_cons_of_mem _ hm))
        (fun hm => ha' (List.mem_cons_of_mem _ hm)) htail
      exact ⟨rfl, rfl⟩

theorem cut_last {c : Char} {a b a' b' : List Char} (hb : c ∉ b) (hb' : c ∉ b')
    (h : a ++ c :: b = a' ++ c :: b') : a = a' ∧ b = b' := by
  -- Read from the end, these are the parts before the character.
  have hrev : b.reverse ++ c :: a.reverse = b'.reverse ++ c :: a'.reverse := by
    simpa using congrArg List.reverse h
  obtain ⟨h₁, h₂⟩ := cut_first (by simpa using hb) (by simpa using hb') hrev
  exact ⟨List.reverse_inj.1 h₂, List.reverse_inj.1 h₁⟩

/-- How many characters of `shard hash ++ '/' :: hash` are the shard.  Three characters are too few
for a shard of two and a hash that begins with it. -/
def shardLength (text : List Char) : Nat :=
  match text with
  | c :: d :: rest =>
    if c.utf8Size = 2 then 1
    else if c.utf8Size = 1 ∧ d.utf8Size = 1 ∧ 1 < rest.length then 2
    else text.length / 2
  | _ => 0

theorem shardLength_shard (hash : List Char) :
    shardLength (shard hash ++ '/' :: hash) = (shard hash).length := by
  match hash with
  | [] => rfl
  | [c] =>
    by_cases h2 : c.utf8Size = 2
    · simp [shard, shardLength, h2]
    · by_cases h1 : c.utf8Size = 1 <;> simp [shard, shardLength, h1, h2]
  | c :: d :: rest =>
    by_cases h2 : c.utf8Size = 2
    · simp [shard, shardLength, h2]
    · by_cases h1 : c.utf8Size = 1
      · by_cases hd : d.utf8Size = 1
        · simp [shard, shardLength, h1, hd]
        · simp [shard, shardLength, h1, hd]
          omega
      · simp [shard, shardLength, h1, h2]
        omega

/-- A hash is told by its shard and itself with a slash between them, also where slashes are part
of the hash. -/
theorem shard_append_injective {x y : List Char}
    (h : shard x ++ '/' :: x = shard y ++ '/' :: y) : x = y := by
  have hlen : (shard x).length = (shard y).length := by
    rw [← shardLength_shard x, ← shardLength_shard y, h]
  exact (List.cons.inj (List.append_inj h hlen).2).2

theorem toList_blobPath (kind : EntryKind) (hasher : Hasher) (hash : String) :
    (blobPath kind hasher hash).toList =
      kind.dirName.toList ++ '/' ::
        (hasher.dir.toList ++ '/' :: (shard hash.toList ++ '/' :: hash.toList)) := by
  simp [blobPath, String.toList_append, String.toList_ofList]

end BlobPathLemmas

open BlobPathLemmas

/-! ## Shards -/

theorem length_encode_cons (c : Char) (text : List Char) :
    (Utf8.encode (c :: text)).length = c.utf8Size + (Utf8.encode text).length := by
  rw [Utf8.encode_cons, List.length_append, String.length_utf8EncodeChar]

theorem eq_nil_of_length_encode {text : List Char} (h : (Utf8.encode text).length = 0) :
    text = [] := by
  cases text with
  | nil => rfl
  | cons c text =>
    have hpos := c.utf8Size_pos
    rw [length_encode_cons] at h
    omega

/-- Two octets are one character, or two of one octet each. -/
theorem eq_of_length_encode_two {text : List Char} (h : (Utf8.encode text).length = 2) :
    (∃ c, text = [c] ∧ c.utf8Size = 2) ∨
      ∃ c d, text = [c, d] ∧ c.utf8Size = 1 ∧ d.utf8Size = 1 := by
  cases text with
  | nil => exact nomatch h
  | cons c text =>
    have hc := c.utf8Size_pos
    rw [length_encode_cons] at h
    cases text with
    | nil => exact .inl ⟨c, rfl, h⟩
    | cons d text =>
      have hd := d.utf8Size_pos
      rw [length_encode_cons] at h
      obtain rfl : text = [] := eq_nil_of_length_encode (by omega)
      exact .inr ⟨c, d, rfl, by omega, by omega⟩

/-- The shard is the beginning of the hash that has two octets, if there is one. -/
theorem shard_of_two {part hash : List Char} (hpart : part <+: hash)
    (htwo : (Utf8.encode part).length = 2) : shard hash = part := by
  obtain ⟨rest, rfl⟩ := hpart
  rcases eq_of_length_encode_two htwo with ⟨c, rfl, hc⟩ | ⟨c, d, rfl, hc, hd⟩
  · simp [shard, hc]
  · simp [shard, hc, hd]

/-- Otherwise the shard is all of the hash. -/
theorem shard_of_not_two {hash : List Char}
    (hnot : ∀ part, part <+: hash → (Utf8.encode part).length ≠ 2) : shard hash = hash := by
  fun_cases shard hash with
  | case1 => rfl
  | case2 c rest hc =>
    exact absurd (by rw [length_encode_cons, hc]; rfl) (hnot [c] (List.prefix_append [c] rest))
  | case3 => rfl
  | case4 c _ hc d rest hd =>
    refine absurd ?_ (hnot [c, d] (List.prefix_append [c, d] rest))
    rw [length_encode_cons, length_encode_cons, hc, hd]
    rfl
  | case5 => rfl
  | case6 => rfl

/-! ## Paths -/

theorem slash_not_mem_dirName (kind : EntryKind) : '/' ∉ kind.dirName.toList := by
  cases kind <;> decide

theorem dirName_injective {k k' : EntryKind} (h : k.dirName.toList = k'.dirName.toList) :
    k = k' := by
  cases k <;> cases k' <;> first | rfl | exact absurd h (by decide)

theorem blobPath_eq_cut {k k' : EntryKind} {h h' : Hasher} {x x' : String}
    (heq : blobPath k h x = blobPath k' h' x') :
    k = k' ∧ h.dir.toList ++ '/' :: (shard x.toList ++ '/' :: x.toList) =
      h'.dir.toList ++ '/' :: (shard x'.toList ++ '/' :: x'.toList) := by
  have hlist := congrArg String.toList heq
  rw [toList_blobPath, toList_blobPath] at hlist
  obtain ⟨hk, hrest⟩ := cut_first (slash_not_mem_dirName k) (slash_not_mem_dirName k') hlist
  exact ⟨dirName_injective hk, hrest⟩

theorem kind_eq_of_blobPath_eq {k k' : EntryKind} {h h' : Hasher} {x x' : String}
    (heq : blobPath k h x = blobPath k' h' x') : k = k' :=
  (blobPath_eq_cut heq).1

/-- Under directories without slashes, different hashes or directories make different paths. -/
theorem blobPath_injective_of_dir {k k' : EntryKind} {h h' : Hasher} {x x' : String}
    (hdir : '/' ∉ h.dir.toList) (hdir' : '/' ∉ h'.dir.toList)
    (heq : blobPath k h x = blobPath k' h' x') : k = k' ∧ h.dir = h'.dir ∧ x = x' := by
  obtain ⟨hk, hrest⟩ := blobPath_eq_cut heq
  obtain ⟨hd, hx⟩ := cut_first hdir hdir' hrest
  exact ⟨hk, String.toList_inj.1 hd, String.toList_inj.1 (shard_append_injective hx)⟩

/-- Different hashes without slashes, or different directories, make different paths. -/
theorem blobPath_injective_of_hash {k k' : EntryKind} {h h' : Hasher} {x x' : String}
    (hhash : '/' ∉ x.toList) (hhash' : '/' ∉ x'.toList)
    (heq : blobPath k h x = blobPath k' h' x') : k = k' ∧ h.dir = h'.dir ∧ x = x' := by
  obtain ⟨hk, hrest⟩ := blobPath_eq_cut heq
  have hlast : (h.dir.toList ++ '/' :: shard x.toList) ++ '/' :: x.toList =
      (h'.dir.toList ++ '/' :: shard x'.toList) ++ '/' :: x'.toList := by
    simpa using hrest
  obtain ⟨hbefore, hx⟩ := cut_last hhash hhash' hlast
  obtain rfl := String.toList_inj.1 hx
  exact ⟨hk, String.toList_inj.1 (List.append_cancel_right hbefore), rfl⟩

/-! ## Keys -/

theorem slash_not_mem_name (kind : EntryKind) : '/' ∉ kind.name.toList := by
  cases kind <;> decide

theorem name_injective {k k' : EntryKind} (h : k.name = k'.name) : k = k' := by
  have hread := congrArg EntryKind.ofName? h
  rw [EntryKind.ofName?_name, EntryKind.ofName?_name] at hread
  exact Option.some.inj hread

/-- Different kinds or hashes make different keys. -/
theorem lookupKey_injective {k k' : EntryKind} {x x' : String}
    (heq : lookupKey k x = lookupKey k' x') : k = k' ∧ x = x' := by
  have hlist : k.name.toList ++ '/' :: x.toList = k'.name.toList ++ '/' :: x'.toList := by
    simpa [lookupKey, String.toList_append] using congrArg String.toList heq
  obtain ⟨hk, hx⟩ := cut_first (slash_not_mem_name k) (slash_not_mem_name k') hlist
  exact ⟨name_injective (String.toList_inj.1 hk), String.toList_inj.1 hx⟩

/-! ## Entries -/

/-- Whatever the hashes are, paths under directories without slashes are the same for the same kind,
directory and hash only, and keys are for the same kind and hash only. -/
theorem entries_told_apart (k k' : EntryKind) (x x' : String) :
    (∀ h h' : Hasher, '/' ∉ h.dir.toList → '/' ∉ h'.dir.toList →
      (blobPath k h x = blobPath k' h' x' ↔ k = k' ∧ h.dir = h'.dir ∧ x = x')) ∧
    (lookupKey k x = lookupKey k' x' ↔ k = k' ∧ x = x') := by
  constructor
  · intro h h' hdir hdir'
    refine ⟨blobPath_injective_of_dir hdir hdir', ?_⟩
    rintro ⟨rfl, hd, rfl⟩
    unfold blobPath
    rw [hd]
  · refine ⟨lookupKey_injective, ?_⟩
    rintro ⟨rfl, rfl⟩
    rfl

/-- Slashes in a hash, and characters that two octets would cut, do not make it another. -/
theorem entries_told_apart_of_slashes :
    let hasher : Hasher := .ofAlgorithm .sha256 .sha256
    '/' ∉ hasher.dir.toList ∧
      blobPath .raw hasher "aé" ≠ blobPath .raw hasher "aé/aé" ∧
      blobPath .raw hasher "/" ≠ blobPath .raw hasher "//" ∧
      lookupKey .raw "" ≠ lookupKey .raw "/" := by
  intro hasher
  have hdir : '/' ∉ hasher.dir.toList := by decide
  refine ⟨hdir, fun heq => ?_, fun heq => ?_, fun heq => ?_⟩
  · have hsame := ((entries_told_apart .raw .raw "aé" "aé/aé").1 hasher hasher hdir hdir).1 heq
    exact absurd hsame.2.2 (by decide)
  · have hsame := ((entries_told_apart .raw .raw "/" "//").1 hasher hasher hdir hdir).1 heq
    exact absurd hsame.2.2 (by decide)
  · have hsame := (entries_told_apart .raw .raw "" "/").2.1 heq
    exact absurd hsame.2 (by decide)

end AssetCache.Entry
