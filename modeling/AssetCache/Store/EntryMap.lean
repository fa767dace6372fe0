import AssetCache.Bytes

/-!
# Maps from keys to blobs

A finite map that keeps its keys in the order in which they first came.

Results: 1. what is inserted is found, and nothing else changes (`find?_insert`).
-/

namespace AssetCache

/-- Blobs under keys, each key once. -/
structure EntryMap where
  entries : List (String × Bytes)
  distinct : (entries.map (·.1)).Nodup

namespace EntryMap

def empty : EntryMap := ⟨[], .nil⟩

/-- The blob under a key in a list of entries. -/
def findIn (key : String) : List (String × Bytes) → Option Bytes
  | [] => none
  | (k, blob) :: rest => if k = key then some blob else findIn key rest

/-- Put a blob under a key, in place of the one that is there, or at the end. -/
def insertIn (key : String) (blob : Bytes) : List (String × Bytes) → List (String × Bytes)
  | [] => [(key, blob)]
  | (k, old) :: rest =>
    if k = key then (key, blob) :: rest else (k, old) :: insertIn key blob rest

theorem mem_keys_insertIn {key k : String} {blob : Bytes} {l : List (String × Bytes)} :
    k ∈ (insertIn key blob l).map (·.1) ↔ k = key ∨ k ∈ l.map (·.1) := by
  induction l with
  | nil => simp [insertIn]
  | cons e rest ih =>
    obtain ⟨x, old⟩ := e
    simp only [insertIn]
    split
    next h => subst h; simp
    next => simp only [List.map_cons, List.mem_cons, ih, or_left_comm]

theorem nodup_insertIn {key : String} {blob : Bytes} {l : List (String × Bytes)}
    (h : (l.map (·.1)).Nodup) : ((insertIn key blob l).map (·.1)).Nodup := by
  induction l with
  | nil => simp [insertIn]
  | cons e rest ih =>
    obtain ⟨x, old⟩ := e
    simp only [List.map_cons, List.nodup_cons] at h
    simp only [insertIn]
    split
    next hx => subst hx; simpa using h
    next hx =>
      simp only [List.map_cons, List.nodup_cons, mem_keys_insertIn, not_or]
      exact ⟨⟨hx, h.1⟩, ih h.2⟩

def find? (m : EntryMap) (key : String) : Option Bytes := findIn key m.entries

/-- The map with a blob under a key. -/
def insert (m : EntryMap) (key : String) (blob : Bytes) : EntryMap :=
  ⟨insertIn key blob m.entries, nodup_insertIn m.distinct⟩

def size (m : EntryMap) : Nat := m.entries.length

def octets (m : EntryMap) : Nat := m.entries.foldr (fun e n => e.2.length + n) 0

theorem findIn_insertIn (key k : String) (blob : Bytes) (l : List (String × Bytes)) :
    findIn k (insertIn key blob l) = if key = k then some blob else findIn k l := by
  induction l with
  | nil => simp [insertIn, findIn]
  | cons e rest ih =>
    obtain ⟨x, old⟩ := e
    simp only [insertIn]
    split
    next hx => subst hx; simp only [findIn]; split <;> rfl
    next hx =>
      simp only [findIn, ih]
      by_cases hk : x = k
      · subst hk; simp [Ne.symm hx]
      · simp [hk]

@[simp] theorem find?_empty (key : String) : empty.find? key = none := rfl

theorem find?_insert (m : EntryMap) (key k : String) (blob : Bytes) :
    (m.insert key blob).find? k = if key = k then some blob else m.find? k :=
  findIn_insertIn key k blob m.entries

theorem find?_insert_self (m : EntryMap) (key : String) (blob : Bytes) :
    (m.insert key blob).find? key = some blob :=
  (find?_insert ..).trans (if_pos rfl)

/-- To insert a blob takes none away. -/
theorem exists_find?_insert {m : EntryMap} {key k : String} {blob : Bytes}
    (h : ∃ found, m.find? k = some found) :
    ∃ found, (m.insert key blob).find? k = some found := by
  rw [find?_insert]
  split
  · exact ⟨blob, rfl⟩
  · exact h

end EntryMap

end AssetCache
