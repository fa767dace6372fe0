import AssetCache.Store.EntryMap

/-!
# The state of a store

A store in memory holds blobs under paths, marks the paths that are being written, and counts how
often a lookup found something.  It is meant for fewer than `2 ^ 64` lookups: in words of 64 bits a
count would start over after so many, and here it does not.
-/

namespace AssetCache

/-- What a store in memory consists of. -/
structure Store where
  entries : EntryMap
  /-- The paths that are being written. -/
  inFlight : List String
  /-- How many lookups found something, of fewer than `2 ^ 64` in all. -/
  hits : Nat
  misses : Nat

/-- Numbers about a store.  The counts of lookups are those of `Store`, below `2 ^ 64` together. -/
structure CacheStats where
  hits : Nat
  misses : Nat
  entryCount : Nat
  memoryBytes : Nat
  deriving DecidableEq, Repr

/-- What becomes of a wish to write. -/
inductive Admission where
  /-- The path is marked; the writer may go on. -/
  | begun
  /-- There is an entry already. -/
  | present
  /-- Someone else is writing the path. -/
  | busy
  deriving DecidableEq, Repr

namespace Store

def empty : Store := ⟨.empty, [], 0, 0⟩

/-- Look up a path, and count whether it was found. -/
def lookup (s : Store) (path : String) : Option Bytes × Store :=
  match s.entries.find? path with
  | some blob => (some blob, { s with hits := s.hits + 1 })
  | none => (none, { s with misses := s.misses + 1 })

/-- Mark a path as being written.  An entry that is there already keeps the writer of a blob under
its own digest from it. -/
def begin (s : Store) (path : String) (onlyIfAbsent : Bool) : Admission × Store :=
  if onlyIfAbsent && (s.entries.find? path).isSome then (.present, s)
  else if path ∈ s.inFlight then (.busy, s)
  else (.begun, { s with inFlight := path :: s.inFlight })

/-- Take away the mark of a path. -/
def release (s : Store) (path : String) : Store :=
  { s with inFlight := s.inFlight.erase path }

/-- Store a blob under a path. -/
def insert (s : Store) (path : String) (blob : Bytes) : Store :=
  { s with entries := s.entries.insert path blob }

def stats (s : Store) : CacheStats :=
  ⟨s.hits, s.misses, s.entries.size, s.entries.octets⟩

end Store

end AssetCache
