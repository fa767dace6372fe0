import AssetCache.Entry.Key
import AssetCache.Reader
import AssetCache.Store.EntryMap

/-!
# Stores behind a store

A proxy is another store that is asked for what is not here and is told what was stored here.
Nothing is assumed of its answers.  `Proxy` is what one answers, as a function of its state;
`Proxy.absent` is the proxy of a store that has none, and `Proxy.recording` one that keeps blobs in
memory and records what it is told.
-/

namespace AssetCache

/-- The size that a store gives for an entry; it may not know it. -/
inductive BlobSize where
  | known (size : Nat)
  | unknown
  deriving DecidableEq, Repr

/-- The size, if it is known. -/
def BlobSize.known? : BlobSize → Option Nat
  | known n => some n
  | unknown => none

/-- What a store answers to a request for an entry: an error, a miss, or a reader and a size. -/
abbrev GetAnswer := Except CacheError (Option (Reader × BlobSize))

/-- How a proxy with states in `π` answers. -/
structure Proxy (π : Type) where
  /-- Whether it has an entry, and of what size. -/
  contains : EntryKind → (hash : String) → (size : Option Nat) → π → Option BlobSize × π
  /-- The entry. -/
  get : EntryKind → (hash : String) → (size : Option Nat) → π → GetAnswer × π
  /-- Take in an entry that was stored, with its size and the octets that it takes up. -/
  put : EntryKind → (hash : String) → (logical onDisk : Nat) → Bytes → π → π

namespace Proxy

/-- No proxy: it has nothing and takes in nothing. -/
def absent {π : Type} : Proxy π where
  contains _ _ _ s := (none, s)
  get _ _ _ s := (.ok none, s)
  put _ _ _ _ _ s := s

/-- What a recording proxy holds: its blobs, and the keys of all that it was told, in order. -/
structure Recording where
  blobs : EntryMap
  puts : List String

namespace Recording

def empty : Recording := ⟨.empty, []⟩

/-- Hold a blob without recording that it was told. -/
def seed (r : Recording) (kind : EntryKind) (hash : String) (blob : Bytes) : Recording :=
  { r with blobs := r.blobs.insert (Entry.lookupKey kind hash) blob }

def find? (r : Recording) (kind : EntryKind) (hash : String) : Option Bytes :=
  r.blobs.find? (Entry.lookupKey kind hash)

end Recording

/-- The size that a recording proxy gives. -/
def recordedSize (hideSizes : Bool) (blob : Bytes) : BlobSize :=
  if hideSizes then .unknown else .known blob.length

/-- A proxy that keeps blobs in memory, tells their sizes or hides them, and records what it is
told. -/
def recording (hideSizes : Bool) : Proxy Recording where
  contains kind hash _ r := ((r.find? kind hash).map (recordedSize hideSizes), r)
  get kind hash _ r :=
    (.ok ((r.find? kind hash).map fun b => (Reader.ofBytes b, recordedSize hideSizes b)), r)
  put kind hash _ _ blob r :=
    { Recording.seed r kind hash blob with puts := r.puts ++ [Entry.lookupKey kind hash] }

end Proxy

end AssetCache
