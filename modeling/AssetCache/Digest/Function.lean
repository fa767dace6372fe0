/-!
# Digest functions on the wire

Requests and responses name a digest function by a fixed number or a fixed word.  `unknown` is the
value of a field that was not set.

Results: 1. a number is read back as the function that has it (`ofId?_id`); 2. no two functions
share one (`id_injective`).
-/

namespace AssetCache

/-- The wire identity of a digest function. -/
inductive DigestFunction where
  | unknown
  | sha256
  | sha1
  | md5
  | sha384
  | sha512
  | blake3
  deriving DecidableEq, Repr

namespace DigestFunction

/-- Every function but `unknown`, by ascending wire number. -/
def known : List DigestFunction := [sha256, sha1, md5, sha384, sha512, blake3]

def id : DigestFunction → Nat
  | unknown => 0
  | sha256 => 1
  | sha1 => 2
  | md5 => 3
  | sha384 => 5
  | sha512 => 6
  | blake3 => 9

def ofId? (n : Int) : Option DigestFunction :=
  (unknown :: known).find? fun f => (f.id : Int) = n

def wireName : DigestFunction → String
  | unknown => "UNKNOWN"
  | sha256 => "SHA256"
  | sha1 => "SHA1"
  | md5 => "MD5"
  | sha384 => "SHA384"
  | sha512 => "SHA512"
  | blake3 => "BLAKE3"

/-- The function with a word, written exactly so. -/
def ofWireName? (s : String) : Option DigestFunction :=
  (unknown :: known).find? fun f => f.wireName = s

/-- The function with a word, in any case of its ASCII letters. -/
def ofName? (s : String) : Option DigestFunction :=
  (unknown :: known).find? fun f => f.wireName.toList = s.toList.map Char.toUpper

theorem mem_known_iff {f : DigestFunction} : f ∈ known ↔ f ≠ unknown := by
  cases f <;> decide

theorem known_ascending : known.Pairwise fun f g => f.id < g.id := by decide

theorem ofId?_id (f : DigestFunction) : ofId? f.id = some f := by
  cases f <;> decide

theorem ofWireName?_wireName (f : DigestFunction) : ofWireName? f.wireName = some f := by
  cases f <;> decide

theorem id_injective {f g : DigestFunction} (h : f.id = g.id) : f = g := by
  have := ofId?_id f
  rw [h, ofId?_id] at this
  exact (Option.some.inj this).symm

end DigestFunction

end AssetCache
