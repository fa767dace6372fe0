import AssetCache.Digest.Sha256
import AssetCache.Digest.Sha512
import AssetCache.Digest.Sha1
import AssetCache.Digest.Md5
import AssetCache.Digest.Blake3
import AssetCache.Text.Hex

/-!
# The built-in digests

`Algorithm` names the six digests.  Each has a function of a whole message (`digest`, and `hash` for
its hexadecimal form) and a way to compute it from chunks (`start`, `update`, `finish`).
-/

namespace AssetCache.Digest

/-- A digest that is built in. -/
inductive Algorithm where
  | sha256
  | sha1
  | md5
  | sha384
  | sha512
  | blake3
  deriving DecidableEq, Repr

namespace Algorithm

/-- The name by which checksums refer to it. -/
def name : Algorithm → String
  | sha256 => "sha256"
  | sha1 => "sha1"
  | md5 => "md5"
  | sha384 => "sha384"
  | sha512 => "sha512"
  | blake3 => "blake3"

def size : Algorithm → Nat
  | sha256 => 32
  | sha1 => 20
  | md5 => 16
  | sha384 => 48
  | sha512 => 64
  | blake3 => 32

/-- The digest of no octets, in hexadecimal. -/
def emptyHash : Algorithm → String
  | sha256 => "e3b0c44298fc1c149afbf4c8996fb92427ae41e4649b934ca495991b7852b855"
  | sha1 => "da39a3ee5e6b4b0d3255bfef95601890afd80709"
  | md5 => "d41d8cd98f00b204e9800998ecf8427e"
  | sha384 =>
    "38b060a751ac96384cd9327eb1b1e36a21fdb71114be0743" ++
      "4c0cc7bf63f6e1da274edebfe76f65fbd51ad2f14898b95b"
  | sha512 =>
    "cf83e1357eefb8bdf1542850d66d8007d620e4050b5715dc83f4a921d36ce9ce" ++
      "47d0d13c5d85f2b0ff8318d2877eec2f63b931bd47417a81a538327af927da3e"
  | blake3 => "af1349b9f5f9a1a6a0404dea36dcc9499bcb25c9adc112b7cc9a93cae41f3262"

/-- The digest of a whole message. -/
def digest : Algorithm → Bytes → Bytes
  | sha256 => Digest.sha256.digest
  | sha1 => Digest.sha1.digest
  | md5 => Digest.md5.digest
  | sha384 => Digest.sha384.digest
  | sha512 => Digest.sha512.digest
  | blake3 => Blake3.digest

/-- The digest of a whole message, in hexadecimal. -/
def hash (a : Algorithm) (message : Bytes) : String := Hex.encode (a.digest message)

/-- What a digest under way consists of. -/
def Stream : Algorithm → Type
  | sha256 => BlockHash.Stream Sha256.State
  | sha1 => BlockHash.Stream Sha1.State
  | md5 => BlockHash.Stream Md5.State
  | sha384 => BlockHash.Stream Sha512.State
  | sha512 => BlockHash.Stream Sha512.State
  | blake3 => Blake3.Stream

def start : (a : Algorithm) → a.Stream
  | sha256 => Digest.sha256.start
  | sha1 => Digest.sha1.start
  | md5 => Digest.md5.start
  | sha384 => Digest.sha384.start
  | sha512 => Digest.sha512.start
  | blake3 => Blake3.start

def update : (a : Algorithm) → a.Stream → (chunk : Bytes) → a.Stream
  | sha256, s, chunk => Digest.sha256.update s chunk
  | sha1, s, chunk => Digest.sha1.update s chunk
  | md5, s, chunk => Digest.md5.update s chunk
  | sha384, s, chunk => Digest.sha384.update s chunk
  | sha512, s, chunk => Digest.sha512.update s chunk
  | blake3, s, chunk => Blake3.Stream.update s chunk

/-- The digest of all that was fed. -/
def finish : (a : Algorithm) → a.Stream → Bytes
  | sha256, s => Digest.sha256.finish s
  | sha1, s => Digest.sha1.finish s
  | md5, s => Digest.md5.finish s
  | sha384, s => Digest.sha384.finish s
  | sha512, s => Digest.sha512.finish s
  | blake3, s => Blake3.Stream.finish s

/-- The digest of chunks that are fed one by one, in hexadecimal. -/
def hashChunks (a : Algorithm) (chunks : List Bytes) : String :=
  Hex.encode (a.finish (chunks.foldl a.update a.start))

end Algorithm

end AssetCache.Digest
