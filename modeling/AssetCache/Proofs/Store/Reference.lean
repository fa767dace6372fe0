import Mathlib.Data.Finmap
import AssetCache.Proofs.Program.History
import AssetCache.Proofs.Store.Names

/-!
# The store as its clients see it

To its clients, a store without a proxy is a map from names to blobs with two counters.  `Reference`
says so: it has no paths, no marks of writes and no steps, and its blobs stand in no order.  Clients
put, get and ask for entries, and ask for the numbers; each of these is one step of the reference.

`Represents` relates the two.  The store keeps the blobs of the reference under the paths of their
names, and the paths tell the names if the hashers keep their blobs apart.

Results:
1. `Represents.find?_eq`: what the store has under a path the reference has under the name.
2. `Represents.insert`: what is stored under a path is stored under the name.
3. `Represents.stats_eq`: both have the same numbers.
-/

namespace AssetCache

/-! ## What clients may ask -/

/-- What a client may ask of a store. -/
inductive Command where
  | put (name : EntryName) (size : Nat) (body : Reader)
  | get (name : EntryName) (size : Option Nat) (offset : Nat)
  | contains (name : EntryName) (size : Option Nat)
  | stats

namespace Command

def Answer : Command → Type
  | put .. => Except CacheError Unit
  | get .. => GetAnswer
  | contains .. => Option BlobSize
  | stats => CacheStats

def interface : Interface := ⟨Command, Answer⟩

/-- The entry that a command is about. -/
def name? : Command → Option EntryName
  | put n _ _ => some n
  | get n _ _ => some n
  | contains n _ => some n
  | stats => none

/-- Whether a command looks for an entry.  The empty blob is always there, and is not looked for. -/
def seeks : Command → Bool
  | put .. => false
  | get n _ _ => !n.isEmptyBlob
  | contains n _ => !n.isEmptyBlob
  | stats => false

end Command

/-! ## The reference -/

/-- A map from names to blobs, and how often something was looked for and found or not. -/
structure Reference where
  blobs : Finmap fun _ : EntryName => Bytes
  hits : Nat
  misses : Nat

namespace EntryName

/-- Why a blob of a size cannot go by a name: under a digest, or as the result of an action, it has
to be a digest of the hasher, and that of no octets if there are none. -/
def refusal (n : EntryName) (size : Nat) : Option DigestError :=
  if n.kind = .raw then none
  else match n.hasher.validateDigest n.hash size with
    | .ok () => none
    | .error e => some e

/-- What is read of the body of a put: as many octets as were stated and no more, and under a digest
they have to have it. -/
def receive (n : EntryName) (size : Nat) (body : Reader) : Except CacheError Bytes :=
  match body.read (Reader.oneMore size) with
  | .error reason => .error (.io reason)
  | .ok blob =>
    if blob.length ≠ size then .error (.sizeMismatch n.hash size blob.length)
    else if n.kind = .cas ∧ n.hasher.hash blob ≠ n.hash then
      .error (.hashMismatch n.hash (n.hasher.hash blob))
    else .ok blob

end EntryName

namespace Reference

def empty : Reference := ⟨∅, 0, 0⟩

/-- Count that a name was looked for. -/
def seek (m : Reference) (n : EntryName) : Reference :=
  if n.isEmptyBlob then m
  else if n ∈ m.blobs then { m with hits := m.hits + 1 }
  else { m with misses := m.misses + 1 }

/-- A put stores the blob that it reads, in place of the one that is there.  The empty blob and what
is there under its own digest are not stored. -/
def put (m : Reference) (n : EntryName) (size : Nat) (body : Reader) :
    Except CacheError Unit × Reference :=
  match n.refusal size with
  | some e => (.error (.validation e), m)
  | none =>
    if n.isEmptyBlob ∨ (n.kind = .cas ∧ n ∈ m.blobs) then (.ok (), m)
    else match n.receive size body with
      | .error e => (.error e, m)
      | .ok blob => (.ok (), { m with blobs := m.blobs.insert n blob })

/-- The blob of a name.  The empty blob is always there. -/
def find? (m : Reference) (n : EntryName) : Option Bytes :=
  if n.isEmptyBlob then some [] else m.blobs.lookup n

/-- Whether a size is asked for that a blob does not have. -/
def otherSize (size : Option Nat) (blob : Bytes) : Bool := size.any (· ≠ blob.length)

/-- What a get gives: a blob from an offset on, if there is one of the size that is asked for. -/
def given (m : Reference) (n : EntryName) (size : Option Nat) (offset : Nat) : GetAnswer :=
  match m.find? n with
  | none => .ok none
  | some blob =>
    if otherSize size blob then .ok none
    else if blob.length < offset then
      .error (.status 416 s!"offset {offset} beyond end of {blob.length} byte entry {n.hash}")
    else .ok (some (.ofBytes (blob.drop offset), .known blob.length))

/-- How a question is answered: by the size of a blob, if it is the one that is asked for.  Of the
empty blob it does not matter which is. -/
def told (m : Reference) (n : EntryName) (size : Option Nat) : Option BlobSize :=
  if n.isEmptyBlob then some (.known 0)
  else match m.blobs.lookup n with
    | none => none
    | some blob => if otherSize size blob then none else some (.known blob.length)

def stats (m : Reference) : CacheStats :=
  ⟨m.hits, m.misses, m.blobs.entries.card, (m.blobs.entries.map fun e => e.2.length).sum⟩

/-- What a command answers, and the reference after it. -/
def perform : (c : Command.interface.Call) → Reference → Command.interface.Answer c × Reference
  | .put n size body, m => m.put n size body
  | .get n size offset, m => (m.given n size offset, m.seek n)
  | .contains n size, m => (m.told n size, m.seek n)
  | .stats, m => (m.stats, m)

end Reference

/-! ## Entries, in no order -/

namespace EntryMap

theorem findIn_of_mem {key : String} {blob : Bytes} {l : List (String × Bytes)}
    (hdistinct : (l.map (·.1)).Nodup) (h : (key, blob) ∈ l) : findIn key l = some blob := by
  induction l with
  | nil => exact nomatch h
  | cons e rest ih =>
    obtain ⟨k, old⟩ := e
    obtain ⟨hnew, hrest⟩ := List.nodup_cons.1 hdistinct
    unfold findIn
    rcases List.mem_cons.1 h with heq | hmem
    · obtain ⟨rfl, rfl⟩ := Prod.mk.inj heq
      exact if_pos rfl
    · have hne : k ≠ key := by
        rintro rfl
        exact hnew (List.mem_map.2 ⟨_, hmem, rfl⟩)
      rw [if_neg hne]
      exact ih hrest hmem

theorem find?_eq_some_iff {m : EntryMap} {key : String} {blob : Bytes} :
    m.find? key = some blob ↔ (key, blob) ∈ m.entries :=
  ⟨mem_of_findIn, findIn_of_mem m.distinct⟩

theorem insertIn_of_absent {key : String} {blob : Bytes} {l : List (String × Bytes)}
    (h : findIn key l = none) : insertIn key blob l = l ++ [(key, blob)] := by
  induction l with
  | nil => rfl
  | cons e rest ih =>
    obtain ⟨k, old⟩ := e
    unfold findIn at h
    unfold insertIn
    split at h
    · cases h
    next hne =>
      rw [if_neg hne, ih h]
      rfl

/-- A blob that takes the place of another one is there instead of it. -/
theorem cons_insertIn {key : String} {old blob : Bytes} {l : List (String × Bytes)}
    (h : findIn key l = some old) :
    ((key, old) :: insertIn key blob l).Perm ((key, blob) :: l) := by
  induction l with
  | nil => exact nomatch h
  | cons e rest ih =>
    obtain ⟨k, other⟩ := e
    unfold findIn at h
    unfold insertIn
    split at h
    next heq =>
      obtain rfl := heq
      obtain rfl := Option.some.inj h
      rw [if_pos rfl]
      exact .swap ..
    next hne =>
      rw [if_neg hne]
      exact ((List.Perm.swap ..).trans ((ih h).cons _)).trans (.swap ..)

theorem octets_eq_sum (m : EntryMap) :
    m.octets = ((m.entries : Multiset (String × Bytes)).map fun e => e.2.length).sum := by
  rw [Multiset.map_coe, Multiset.sum_coe, octets]
  induction m.entries with
  | nil => rfl
  | cons e rest ih => rw [List.foldr_cons, ih, List.map_cons, List.sum_cons]

end EntryMap

namespace Reference

/-- In the reference, too, a blob that takes the place of another one is there instead of it. -/
theorem cons_entries_insert {blobs : Finmap fun _ : EntryName => Bytes} {n : EntryName}
    {old blob : Bytes} (h : blobs.lookup n = some old) :
    (⟨n, old⟩ : (_ : EntryName) × Bytes) ::ₘ (blobs.insert n blob).entries =
      ⟨n, blob⟩ ::ₘ blobs.entries := by
  -- Without the name, the map is the same before and after.
  have hold : blobs = (blobs.erase n).insert n old := by
    refine Finmap.ext_lookup fun k => ?_
    by_cases hk : k = n
    · subst hk
      rw [h, Finmap.lookup_insert]
    · rw [Finmap.lookup_insert_of_ne _ hk, Finmap.lookup_erase_ne hk]
  have hnew : blobs.insert n blob = (blobs.erase n).insert n blob := by
    rw [hold, Finmap.insert_insert, ← hold]
  calc (⟨n, old⟩ : (_ : EntryName) × Bytes) ::ₘ (blobs.insert n blob).entries
      = ⟨n, old⟩ ::ₘ ⟨n, blob⟩ ::ₘ (blobs.erase n).entries := by
        rw [hnew, Finmap.entries_insert_of_notMem Finmap.notMem_erase_self]
    _ = ⟨n, blob⟩ ::ₘ ⟨n, old⟩ ::ₘ (blobs.erase n).entries := Multiset.cons_swap ..
    _ = ⟨n, blob⟩ ::ₘ ((blobs.erase n).insert n old).entries := by
        rw [Finmap.entries_insert_of_notMem Finmap.notMem_erase_self]
    _ = ⟨n, blob⟩ ::ₘ blobs.entries := by rw [← hold]

end Reference

/-! ## The reference that a store represents -/

variable {H : List Hasher} {m : Reference} {s : Store}

/-- A store keeps the blobs of a reference under the paths of their names, and counts as it does;
nothing is being written. -/
structure Represents (H : List Hasher) (m : Reference) (s : Store) : Prop where
  entries : (s.entries.entries : Multiset (String × Bytes)) =
    m.blobs.entries.map fun e => (e.1.path, e.2)
  hashers : ∀ n ∈ m.blobs, n.hasher ∈ H
  hits : s.hits = m.hits
  misses : s.misses = m.misses
  idle : s.inFlight = []

theorem represents_empty : Represents H .empty .empty where
  entries := rfl
  hashers _ h := absurd h Finmap.notMem_empty
  hits := rfl
  misses := rfl
  idle := rfl

namespace Represents

/-- What the store has under a path goes by a name in the reference. -/
theorem exists_name (h : Represents H m s) {path : String} {blob : Bytes}
    (hfind : s.entries.find? path = some blob) : ∃ n ∈ m.blobs, n.path = path := by
  have hmem := Multiset.mem_coe.2 (EntryMap.find?_eq_some_iff.1 hfind)
  rw [h.entries] at hmem
  obtain ⟨⟨n, found⟩, hn, heq⟩ := Multiset.mem_map.1 hmem
  exact ⟨n, Finmap.mem_of_lookup_eq_some (Finmap.lookup_eq_some_iff.2 hn), (Prod.mk.inj heq).1⟩

/-- What the store has under the path of a name is what the reference has under the name. -/
theorem find?_eq (h : Represents H m s) (hsep : Separate H) {n : EntryName} (hn : n.hasher ∈ H) :
    s.entries.find? n.path = m.blobs.lookup n := by
  cases hlookup : m.blobs.lookup n with
  | some blob =>
    have hmem : (⟨n, blob⟩ : (_ : EntryName) × Bytes) ∈ m.blobs.entries :=
      Finmap.lookup_eq_some_iff.1 hlookup
    refine EntryMap.find?_eq_some_iff.2 (Multiset.mem_coe.1 ?_)
    rw [h.entries]
    exact Multiset.mem_map.2 ⟨_, hmem, rfl⟩
  | none =>
    cases hfind : s.entries.find? n.path with
    | none => rfl
    | some blob =>
      obtain ⟨k, hk, hpath⟩ := h.exists_name hfind
      obtain rfl := EntryName.eq_of_path hsep (h.hashers k hk) hn hpath
      exact absurd hk (Finmap.lookup_eq_none.1 hlookup)

theorem mem_iff (h : Represents H m s) (hsep : Separate H) {n : EntryName} (hn : n.hasher ∈ H) :
    n ∈ m.blobs ↔ ∃ blob, s.entries.find? n.path = some blob := by
  rw [h.find?_eq hsep hn]
  exact Finmap.mem_iff

/-- What is stored under the path of a name is stored under the name. -/
theorem insert (h : Represents H m s) (hsep : Separate H) {n : EntryName} (hn : n.hasher ∈ H)
    (blob : Bytes) :
    Represents H { m with blobs := m.blobs.insert n blob }
      { s with entries := s.entries.insert n.path blob } where
  entries := by
    show Multiset.ofList (EntryMap.insertIn n.path blob s.entries.entries) = _
    cases hlookup : m.blobs.lookup n with
    | none =>
      have habsent : s.entries.find? n.path = none := (h.find?_eq hsep hn).trans hlookup
      rw [EntryMap.insertIn_of_absent habsent, ← Multiset.coe_add, h.entries,
        Finmap.entries_insert_of_notMem (Finmap.lookup_eq_none.1 hlookup), Multiset.map_cons]
      exact (Multiset.add_comm _ _).trans (Multiset.singleton_add _ _)
    | some old =>
      -- Both have the new blob instead of the old one.
      have hfind : s.entries.find? n.path = some old := (h.find?_eq hsep hn).trans hlookup
      let pair (e : (_ : EntryName) × Bytes) : String × Bytes := (e.1.path, e.2)
      refine (Multiset.cons_inj_right (n.path, old)).1 ?_
      calc (n.path, old) ::ₘ (EntryMap.insertIn n.path blob s.entries.entries : Multiset _)
          = (n.path, blob) ::ₘ (s.entries.entries : Multiset _) :=
            Multiset.coe_eq_coe.2 (EntryMap.cons_insertIn hfind)
        _ = (⟨n, blob⟩ ::ₘ m.blobs.entries).map pair := by rw [h.entries, Multiset.map_cons]
        _ = (⟨n, old⟩ ::ₘ (m.blobs.insert n blob).entries).map pair := by
            rw [Reference.cons_entries_insert hlookup]
        _ = (n.path, old) ::ₘ (m.blobs.insert n blob).entries.map pair := Multiset.map_cons ..
  hashers k hk := by
    rcases Finmap.mem_insert.1 hk with rfl | hk
    · exact hn
    · exact h.hashers k hk
  hits := h.hits
  misses := h.misses
  idle := h.idle

/-- To look for a name is to look up its path. -/
theorem seek (h : Represents H m s) (hsep : Separate H) {n : EntryName} (hn : n.hasher ∈ H) :
    Represents H (m.seek n) (if n.isEmptyBlob then s else (s.lookup n.path).2) := by
  unfold Reference.seek
  split
  · exact h
  · have hfind := h.find?_eq hsep hn
    unfold Store.lookup
    cases hlookup : m.blobs.lookup n with
    | some blob =>
      rw [hfind, hlookup, if_pos (Finmap.mem_of_lookup_eq_some hlookup)]
      exact ⟨h.entries, h.hashers, congrArg (· + 1) h.hits, h.misses, h.idle⟩
    | none =>
      rw [hfind, hlookup, if_neg (Finmap.lookup_eq_none.1 hlookup)]
      exact ⟨h.entries, h.hashers, h.hits, congrArg (· + 1) h.misses, h.idle⟩

theorem stats_eq (h : Represents H m s) : s.stats = m.stats := by
  have hsize : s.entries.size = m.blobs.entries.card := by
    have hcard := congrArg Multiset.card h.entries
    rwa [Multiset.card_map, Multiset.coe_card] at hcard
  have hoctets : s.entries.octets = (m.blobs.entries.map fun e => e.2.length).sum := by
    rw [EntryMap.octets_eq_sum, h.entries, Multiset.map_map]
    rfl
  unfold Store.stats Reference.stats
  rw [h.hits, h.misses, hsize, hoctets]

end Represents

end AssetCache
