import AssetCache.Digest.Algorithm
import AssetCache.Digest.Error
import AssetCache.Text.Utf8

/-!
# Hashers

A hasher is a built-in digest under a wire identity, a name and a storage directory.  It also says
which texts are digests of its own.
-/

namespace AssetCache

open Digest (Algorithm)

/-- A digest in use.  A custom hasher is a built-in digest, too, under another identity, name or
directory: it hashes as that digest does, and takes for digests what all hashers do.  None brings a
`hash`, `validate`, `validateDigest` or `isEmptyHash` of its own. -/
structure Hasher where
  /-- Its wire identity. -/
  function : DigestFunction
  /-- Its name in checksums and messages. -/
  name : String
  /-- The digest that it computes. -/
  algorithm : Algorithm
  /-- The storage directory of its blobs. -/
  dir : String := name
  deriving DecidableEq, Repr

namespace Hasher

/-- A built-in digest under its own name. -/
def ofAlgorithm (function : DigestFunction) (a : Algorithm) : Hasher :=
  ⟨function, a.name, a, a.name⟩

def size (h : Hasher) : Nat := h.algorithm.size

def empty (h : Hasher) : String := h.algorithm.emptyHash

def hash (h : Hasher) (blob : Bytes) : String := h.algorithm.hash blob

/-- The digest of a blob that comes in chunks. -/
def hashChunks (h : Hasher) (chunks : List Bytes) : String := h.algorithm.hashChunks chunks

/-- Whether a text is the digest of no octets. -/
def isEmptyHash (h : Hasher) (hash : String) : Bool := hash == h.empty

/-- Check that a text is a digest: as many octets as digits are due, then lower-case digits only. -/
def validate (h : Hasher) (value : String) : Except DigestError Unit :=
  let got := Utf8.length value
  let expected := h.size * 2
  if got ≠ expected then .error (.invalidLength h.name got expected)
  else if !value.toList.all Hex.isLowerDigit then .error (.malformed h.name value)
  else .ok ()

/-- Check the digest of a blob of `size` octets.  That of an empty blob is a fixed one. -/
def validateDigest (h : Hasher) (hash : String) (size : Nat) : Except DigestError Unit :=
  if size = 0 then
    if h.isEmptyHash hash then .ok () else .error (.invalidEmptyDigest h.function)
  else h.validate hash

end Hasher

end AssetCache
