import AssetCache.Proofs.Store.Integrity

/-!
# Names of entries

A client names an entry by its kind, its hasher and its hash.  The store keeps it under a path that
is made of all three, and a proxy under a key that leaves the hasher out.

Results:
1. `EntryName.eq_of_path`: among hashers that keep their blobs apart, a path tells the name.
-/

namespace AssetCache

/-- What a client calls an entry. -/
@[ext]
structure EntryName where
  kind : EntryKind
  hasher : Hasher
  hash : String
  deriving DecidableEq, Repr

namespace EntryName

/-- Where the store keeps the entry. -/
def path (n : EntryName) : String := Entry.blobPath n.kind n.hasher n.hash

/-- Whether it is the name of the empty blob under its own digest. -/
def isEmptyBlob (n : EntryName) : Bool := Cache.isEmptyBlob n.kind n.hasher n.hash

theorem eq_of_path {H : List Hasher} (hsep : Separate H) {n m : EntryName} (hn : n.hasher ∈ H)
    (hm : m.hasher ∈ H) (h : n.path = m.path) : n = m := by
  obtain ⟨hkind, hdir, hhash⟩ :=
    Entry.blobPath_injective_of_dir (hsep.slashFree _ hn) (hsep.slashFree _ hm) h
  exact EntryName.ext hkind (hsep.ownDir _ hn _ hm hdir) hhash

end EntryName

end AssetCache
