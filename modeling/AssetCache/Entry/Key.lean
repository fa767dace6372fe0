import AssetCache.Digest.Hasher
import AssetCache.Error

/-!
# Keys of entries

Where an entry is stored (`blobPath`), the name by which stores that share entries know it
(`lookupKey`), and the key under which an instance keeps the results of its actions (`remapKey`).
-/

namespace AssetCache

def EntryKind.read (s : String) : Except ConfigError EntryKind :=
  match EntryKind.ofName? s with
  | some k => .ok k
  | none => .error (.invalidValue "entry_kind" s "expected one of ac, cas, raw")

namespace Entry

/-- The part of a hash that names its subdirectory: its first two octets, or all of it where these
are not there or end inside a character. -/
def shard (hash : List Char) : List Char :=
  match hash with
  | [] => []
  | c :: rest =>
    if c.utf8Size = 2 then [c]
    else if c.utf8Size = 1 then
      match rest with
      | [] => hash
      | d :: _ => if d.utf8Size = 1 then [c, d] else hash
    else hash

/-- Where an entry is stored, from the directory of its kind. -/
def blobPath (kind : EntryKind) (hasher : Hasher) (hash : String) : String :=
  kind.dirName ++ "/" ++ hasher.dir ++ "/" ++ String.ofList (shard hash.toList) ++ "/" ++ hash

/-- The name of an entry among stores that share entries. -/
def lookupKey (kind : EntryKind) (hash : String) : String := kind.name ++ "/" ++ hash

/-- The key under which an instance keeps the result of an action: the SHA-256 of the key and the
name of the instance, or the key itself where the instance has no name. -/
def remapKey (key instanceName : String) : String :=
  if instanceName.isEmpty then key
  else Digest.Algorithm.sha256.hash (Utf8.ofString key ++ Utf8.ofString instanceName)

end Entry

end AssetCache
