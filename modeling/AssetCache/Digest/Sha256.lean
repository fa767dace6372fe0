import AssetCache.Digest.BlockHash

/-!
# SHA-256

Eight words of 32 bits are carried over blocks of 64 octets.  A block's sixteen words are extended
to sixty-four, and each round mixes one of them into the chaining value.
-/

namespace AssetCache.Digest.Sha256

/-- The chaining value. -/
structure State where
  (a b c d e f g h : UInt32)

/-- The word turned right by `n` bits, `0 < n < 32`. -/
def rotr (x n : UInt32) : UInt32 := (x >>> n) ||| (x <<< (32 - n))

/-- Fractional bits of the cube roots of the first sixty-four primes. -/
def constants : List UInt32 :=
  [0x428a2f98, 0x71374491, 0xb5c0fbcf, 0xe9b5dba5, 0x3956c25b, 0x59f111f1, 0x923f82a4,
    0xab1c5ed5, 0xd807aa98, 0x12835b01, 0x243185be, 0x550c7dc3, 0x72be5d74, 0x80deb1fe,
    0x9bdc06a7, 0xc19bf174, 0xe49b69c1, 0xefbe4786, 0x0fc19dc6, 0x240ca1cc, 0x2de92c6f,
    0x4a7484aa, 0x5cb0a9dc, 0x76f988da, 0x983e5152, 0xa831c66d, 0xb00327c8, 0xbf597fc7,
    0xc6e00bf3, 0xd5a79147, 0x06ca6351, 0x14292967, 0x27b70a85, 0x2e1b2138, 0x4d2c6dfc,
    0x53380d13, 0x650a7354, 0x766a0abb, 0x81c2c92e, 0x92722c85, 0xa2bfe8a1, 0xa81a664b,
    0xc24b8b70, 0xc76c51a3, 0xd192e819, 0xd6990624, 0xf40e3585, 0x106aa070, 0x19a4c116,
    0x1e376c08, 0x2748774c, 0x34b0bcb5, 0x391c0cb3, 0x4ed8aa4a, 0x5b9cca4f, 0x682e6ff3,
    0x748f82ee, 0x78a5636f, 0x84c87814, 0x8cc70208, 0x90befffa, 0xa4506ceb, 0xbef9a3f7,
    0xc67178f2]

/-- Fractional bits of the square roots of the first eight primes. -/
def initial : State :=
  ⟨0x6a09e667, 0xbb67ae85, 0x3c6ef372, 0xa54ff53a,
    0x510e527f, 0x9b05688c, 0x1f83d9ab, 0x5be0cd19⟩

/-- Append `count` words to a schedule that is held newest first. -/
def extend : (count : Nat) → (newestFirst : List UInt32) → List UInt32
  | 0, ws => ws
  | count + 1, ws =>
    let w2 := ws.getD 1 0
    let w15 := ws.getD 14 0
    let s0 := rotr w15 7 ^^^ rotr w15 18 ^^^ (w15 >>> 3)
    let s1 := rotr w2 17 ^^^ rotr w2 19 ^^^ (w2 >>> 10)
    extend count ((ws.getD 15 0 + s0 + ws.getD 6 0 + s1) :: ws)

/-- The sixty-four words of a block. -/
def schedule (block : Bytes) : List UInt32 :=
  (extend 48 (Bytes.words32BE block).reverse).reverse

/-- One round, with a constant and a word of the schedule. -/
def round (s : State) (k w : UInt32) : State :=
  let big1 := rotr s.e 6 ^^^ rotr s.e 11 ^^^ rotr s.e 25
  let choice := (s.e &&& s.f) ^^^ (~~~s.e &&& s.g)
  let t1 := s.h + big1 + choice + k + w
  let big0 := rotr s.a 2 ^^^ rotr s.a 13 ^^^ rotr s.a 22
  let majority := (s.a &&& s.b) ^^^ (s.a &&& s.c) ^^^ (s.b &&& s.c)
  ⟨t1 + (big0 + majority), s.a, s.b, s.c, s.d + t1, s.e, s.f, s.g⟩

def rounds : State → (constants schedule : List UInt32) → State
  | s, k :: ks, w :: ws => rounds (round s k w) ks ws
  | s, _, _ => s

/-- The chaining value after a block. -/
def compress (s : State) (block : Bytes) : State :=
  let r := rounds s constants (schedule block)
  ⟨s.a + r.a, s.b + r.b, s.c + r.c, s.d + r.d, s.e + r.e, s.f + r.f, s.g + r.g, s.h + r.h⟩

/-- The octets of the chaining value. -/
def State.bytes (s : State) : Bytes :=
  [s.a, s.b, s.c, s.d, s.e, s.f, s.g, s.h].flatMap Bytes.ofWord32BE

end Sha256

def sha256 : BlockHash Sha256.State where
  blockSize := 64
  initial := Sha256.initial
  compress := Sha256.compress
  lengthField length := Bytes.bigEndian 8 (8 * length)
  output := Sha256.State.bytes
  blockSize_pos := BlockHash.sixtyFour_pos

end AssetCache.Digest
