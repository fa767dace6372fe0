/-!
# Kinds of entries

A store keeps three kinds of entries apart: results of actions, blobs under their own digests, and
entries that nothing is checked of.
-/

namespace AssetCache

/-- The space that an entry lives in. -/
inductive EntryKind where
  /-- The result of an action, under the fingerprint of the action. -/
  | ac
  /-- A blob, under its digest. -/
  | cas
  /-- Anything, under any key. -/
  | raw
  deriving DecidableEq, Repr

namespace EntryKind

def all : List EntryKind := [ac, cas, raw]

/-- The name in logical keys. -/
def name : EntryKind → String
  | ac => "ac"
  | cas => "cas"
  | raw => "raw"

/-- The directory, with the version of the storage format. -/
def dirName : EntryKind → String
  | ac => "ac.v2"
  | cas => "cas.v2"
  | raw => "raw.v2"

def ofName? (s : String) : Option EntryKind := all.find? fun k => k.name = s

theorem ofName?_name (k : EntryKind) : ofName? k.name = some k := by
  cases k <;> decide

end EntryKind

end AssetCache
