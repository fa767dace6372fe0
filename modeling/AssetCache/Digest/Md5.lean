import AssetCache.Digest.BlockHash

/-!
# MD5

Four words of 32 bits, least significant octet first, are carried over blocks of 64 octets.  Four
phases of sixteen rounds differ in their mixing function, their turns and the order in which they
read the block's words.
-/

namespace AssetCache.Digest.Md5

/-- The chaining value. -/
structure State where
  (a b c d : UInt32)

/-- The word turned left by `n` bits, `0 < n < 32`. -/
def rotl (x n : UInt32) : UInt32 := (x <<< n) ||| (x >>> (32 - n))

/-- The chaining value before the first block. -/
def initial : State := ⟨0x67452301, 0xefcdab89, 0x98badcfe, 0x10325476⟩

/-- The absolute sines of 1 to 64, as fractions of 2 ^ 32. -/
def constants : List UInt32 :=
  [0xd76aa478, 0xe8c7b756, 0x242070db, 0xc1bdceee, 0xf57c0faf, 0x4787c62a, 0xa8304613,
    0xfd469501, 0x698098d8, 0x8b44f7af, 0xffff5bb1, 0x895cd7be, 0x6b901122, 0xfd987193,
    0xa679438e, 0x49b40821, 0xf61e2562, 0xc040b340, 0x265e5a51, 0xe9b6c7aa, 0xd62f105d,
    0x02441453, 0xd8a1e681, 0xe7d3fbc8, 0x21e1cde6, 0xc33707d6, 0xf4d50d87, 0x455a14ed,
    0xa9e3e905, 0xfcefa3f8, 0x676f02d9, 0x8d2a4c8a, 0xfffa3942, 0x8771f681, 0x6d9d6122,
    0xfde5380c, 0xa4beea44, 0x4bdecfa9, 0xf6bb4b60, 0xbebfbc70, 0x289b7ec6, 0xeaa127fa,
    0xd4ef3085, 0x04881d05, 0xd9d4d039, 0xe6db99e5, 0x1fa27cf8, 0xc4ac5665, 0xf4292244,
    0x432aff97, 0xab9423a7, 0xfc93a039, 0x655b59c3, 0x8f0ccc92, 0xffeff47d, 0x85845dd1,
    0x6fa87e4f, 0xfe2ce6e0, 0xa3014314, 0x4e0811a1, 0xf7537e82, 0xbd3af235, 0x2ad7d2bb,
    0xeb86d391]

/-- One phase: its mixing function, the turns of four successive rounds, and the way in which it
reads the block: word `(start + step * i) % 16` in its round `i`. -/
structure Phase where
  (mix : UInt32 → UInt32 → UInt32 → UInt32)
  (turns : List UInt32)
  (start step : Nat)

def phases : List Phase :=
  [⟨fun b c d => (b &&& c) ||| (~~~b &&& d), [7, 12, 17, 22], 0, 1⟩,
    ⟨fun b c d => (d &&& b) ||| (~~~d &&& c), [5, 9, 14, 20], 1, 5⟩,
    ⟨fun b c d => b ^^^ c ^^^ d, [4, 11, 16, 23], 5, 3⟩,
    ⟨fun b c d => c ^^^ (b ||| ~~~d), [6, 10, 15, 21], 0, 7⟩]

/-- What one round uses: a mixing function, a turn, and the index of a word of the block. -/
structure Round where
  (mix : UInt32 → UInt32 → UInt32 → UInt32)
  (turn : UInt32)
  (word : Nat)

def Phase.rounds (p : Phase) : List Round :=
  (List.range 16).map fun i => ⟨p.mix, p.turns.getD (i % 4) 0, (p.start + p.step * i) % 16⟩

def plan : List Round := phases.flatMap Phase.rounds

def round (block : List UInt32) (s : State) (r : Round) (k : UInt32) : State :=
  let f := r.mix s.b s.c s.d + s.a + k + block.getD r.word 0
  ⟨s.d, s.b + rotl f r.turn, s.b, s.c⟩

def rounds (block : List UInt32) : State → (plan : List Round) → (constants : List UInt32) → State
  | s, r :: plan, k :: ks => rounds block (round block s r k) plan ks
  | s, _, _ => s

/-- The chaining value after a block. -/
def compress (s : State) (block : Bytes) : State :=
  let r := rounds (Bytes.words32LE block) s plan constants
  ⟨s.a + r.a, s.b + r.b, s.c + r.c, s.d + r.d⟩

/-- The octets of the chaining value. -/
def State.bytes (s : State) : Bytes :=
  [s.a, s.b, s.c, s.d].flatMap Bytes.ofWord32LE

end Md5

def md5 : BlockHash Md5.State where
  blockSize := 64
  initial := Md5.initial
  compress := Md5.compress
  lengthField length := Bytes.littleEndian 8 (8 * length)
  output := Md5.State.bytes
  blockSize_pos := BlockHash.sixtyFour_pos

end AssetCache.Digest
