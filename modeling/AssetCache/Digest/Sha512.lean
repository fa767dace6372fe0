import AssetCache.Digest.BlockHash

/-!
# SHA-512 and SHA-384

Eight words of 64 bits are carried over blocks of 128 octets.  SHA-384 is the same function from
another first chaining value, cut to its first 48 octets.
-/

namespace AssetCache.Digest.Sha512

/-- The chaining value. -/
structure State where
  (a b c d e f g h : UInt64)

/-- The word turned right by `n` bits, `0 < n < 64`. -/
def rotr (x n : UInt64) : UInt64 := (x >>> n) ||| (x <<< (64 - n))

/-- Fractional bits of the cube roots of the first eighty primes. -/
def constants : List UInt64 :=
  [0x428a2f98d728ae22, 0x7137449123ef65cd, 0xb5c0fbcfec4d3b2f, 0xe9b5dba58189dbbc,
    0x3956c25bf348b538, 0x59f111f1b605d019, 0x923f82a4af194f9b, 0xab1c5ed5da6d8118,
    0xd807aa98a3030242, 0x12835b0145706fbe, 0x243185be4ee4b28c, 0x550c7dc3d5ffb4e2,
    0x72be5d74f27b896f, 0x80deb1fe3b1696b1, 0x9bdc06a725c71235, 0xc19bf174cf692694,
    0xe49b69c19ef14ad2, 0xefbe4786384f25e3, 0x0fc19dc68b8cd5b5, 0x240ca1cc77ac9c65,
    0x2de92c6f592b0275, 0x4a7484aa6ea6e483, 0x5cb0a9dcbd41fbd4, 0x76f988da831153b5,
    0x983e5152ee66dfab, 0xa831c66d2db43210, 0xb00327c898fb213f, 0xbf597fc7beef0ee4,
    0xc6e00bf33da88fc2, 0xd5a79147930aa725, 0x06ca6351e003826f, 0x142929670a0e6e70,
    0x27b70a8546d22ffc, 0x2e1b21385c26c926, 0x4d2c6dfc5ac42aed, 0x53380d139d95b3df,
    0x650a73548baf63de, 0x766a0abb3c77b2a8, 0x81c2c92e47edaee6, 0x92722c851482353b,
    0xa2bfe8a14cf10364, 0xa81a664bbc423001, 0xc24b8b70d0f89791, 0xc76c51a30654be30,
    0xd192e819d6ef5218, 0xd69906245565a910, 0xf40e35855771202a, 0x106aa07032bbd1b8,
    0x19a4c116b8d2d0c8, 0x1e376c085141ab53, 0x2748774cdf8eeb99, 0x34b0bcb5e19b48a8,
    0x391c0cb3c5c95a63, 0x4ed8aa4ae3418acb, 0x5b9cca4f7763e373, 0x682e6ff3d6b2b8a3,
    0x748f82ee5defb2fc, 0x78a5636f43172f60, 0x84c87814a1f0ab72, 0x8cc702081a6439ec,
    0x90befffa23631e28, 0xa4506cebde82bde9, 0xbef9a3f7b2c67915, 0xc67178f2e372532b,
    0xca273eceea26619c, 0xd186b8c721c0c207, 0xeada7dd6cde0eb1e, 0xf57d4f7fee6ed178,
    0x06f067aa72176fba, 0x0a637dc5a2c898a6, 0x113f9804bef90dae, 0x1b710b35131c471b,
    0x28db77f523047d84, 0x32caab7b40c72493, 0x3c9ebe0a15c9bebc, 0x431d67c49c100d4c,
    0x4cc5d4becb3e42b6, 0x597f299cfc657e2a, 0x5fcb6fab3ad6faec, 0x6c44198c4a475817]

/-- Fractional bits of the square roots of the first eight primes. -/
def initial : State :=
  ⟨0x6a09e667f3bcc908, 0xbb67ae8584caa73b, 0x3c6ef372fe94f82b, 0xa54ff53a5f1d36f1,
    0x510e527fade682d1, 0x9b05688c2b3e6c1f, 0x1f83d9abfb41bd6b, 0x5be0cd19137e2179⟩

/-- Fractional bits of the square roots of the ninth to the sixteenth prime. -/
def initial384 : State :=
  ⟨0xcbbb9d5dc1059ed8, 0x629a292a367cd507, 0x9159015a3070dd17, 0x152fecd8f70e5939,
    0x67332667ffc00b31, 0x8eb44a8768581511, 0xdb0c2e0d64f98fa7, 0x47b5481dbefa4fa4⟩

/-- Append `count` words to a schedule that is held newest first. -/
def extend : (count : Nat) → (newestFirst : List UInt64) → List UInt64
  | 0, ws => ws
  | count + 1, ws =>
    let w2 := ws.getD 1 0
    let w15 := ws.getD 14 0
    let s0 := rotr w15 1 ^^^ rotr w15 8 ^^^ (w15 >>> 7)
    let s1 := rotr w2 19 ^^^ rotr w2 61 ^^^ (w2 >>> 6)
    extend count ((ws.getD 15 0 + s0 + ws.getD 6 0 + s1) :: ws)

/-- The eighty words of a block. -/
def schedule (block : Bytes) : List UInt64 :=
  (extend 64 (Bytes.words64BE block).reverse).reverse

/-- One round, with a constant and a word of the schedule. -/
def round (s : State) (k w : UInt64) : State :=
  let big1 := rotr s.e 14 ^^^ rotr s.e 18 ^^^ rotr s.e 41
  let choice := (s.e &&& s.f) ^^^ (~~~s.e &&& s.g)
  let t1 := s.h + big1 + choice + k + w
  let big0 := rotr s.a 28 ^^^ rotr s.a 34 ^^^ rotr s.a 39
  let majority := (s.a &&& s.b) ^^^ (s.a &&& s.c) ^^^ (s.b &&& s.c)
  ⟨t1 + (big0 + majority), s.a, s.b, s.c, s.d + t1, s.e, s.f, s.g⟩

def rounds : State → (constants schedule : List UInt64) → State
  | s, k :: ks, w :: ws => rounds (round s k w) ks ws
  | s, _, _ => s

/-- The chaining value after a block. -/
def compress (s : State) (block : Bytes) : State :=
  let r := rounds s constants (schedule block)
  ⟨s.a + r.a, s.b + r.b, s.c + r.c, s.d + r.d, s.e + r.e, s.f + r.f, s.g + r.g, s.h + r.h⟩

/-- The octets of the chaining value. -/
def State.bytes (s : State) : Bytes :=
  [s.a, s.b, s.c, s.d, s.e, s.f, s.g, s.h].flatMap Bytes.ofWord64BE

/-- The octets of SHA-384's chaining value that count: those of the first six words. -/
def State.bytes384 (s : State) : Bytes :=
  [s.a, s.b, s.c, s.d, s.e, s.f].flatMap Bytes.ofWord64BE

end Sha512

def sha512 : BlockHash Sha512.State where
  blockSize := 128
  initial := Sha512.initial
  compress := Sha512.compress
  lengthField length := Bytes.bigEndian 16 (8 * length)
  output := Sha512.State.bytes
  blockSize_pos := by decide

def sha384 : BlockHash Sha512.State :=
  { sha512 with initial := Sha512.initial384, output := Sha512.State.bytes384 }

end AssetCache.Digest
