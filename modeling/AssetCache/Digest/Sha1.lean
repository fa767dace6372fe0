import AssetCache.Digest.BlockHash

/-!
# SHA-1

Five words of 32 bits are carried over blocks of 64 octets.  A block's sixteen words are extended
to eighty; four phases of twenty rounds differ in their mixing function and constant.
-/

namespace AssetCache.Digest.Sha1

/-- The chaining value. -/
structure State where
  (a b c d e : UInt32)

/-- The word turned left by `n` bits, `0 < n < 32`. -/
def rotl (x n : UInt32) : UInt32 := (x <<< n) ||| (x >>> (32 - n))

/-- The chaining value before the first block. -/
def initial : State := ⟨0x67452301, 0xefcdab89, 0x98badcfe, 0x10325476, 0xc3d2e1f0⟩

/-- Append `count` words to a schedule that is held newest first. -/
def extend : (count : Nat) → (newestFirst : List UInt32) → List UInt32
  | 0, ws => ws
  | count + 1, ws =>
    extend count
      (rotl (ws.getD 2 0 ^^^ ws.getD 7 0 ^^^ ws.getD 13 0 ^^^ ws.getD 15 0) 1 :: ws)

/-- The eighty words of a block. -/
def schedule (block : Bytes) : List UInt32 :=
  (extend 64 (Bytes.words32BE block).reverse).reverse

/-- The mixing function and the constant of one phase of twenty rounds. -/
structure Phase where
  (mix : UInt32 → UInt32 → UInt32 → UInt32)
  (constant : UInt32)

/-- Rounds 0 to 19: `b` chooses between `c` and `d`. -/
def choicePhase : Phase := ⟨fun b c d => (b &&& c) ||| (~~~b &&& d), 0x5a827999⟩

/-- Rounds 20 to 39: parity. -/
def parityPhase : Phase := ⟨fun b c d => b ^^^ c ^^^ d, 0x6ed9eba1⟩

/-- Rounds 40 to 59: majority. -/
def majorityPhase : Phase := ⟨fun b c d => (b &&& c) ||| (b &&& d) ||| (c &&& d), 0x8f1bbcdc⟩

/-- Rounds 60 to 79: parity again. -/
def lastPhase : Phase := ⟨fun b c d => b ^^^ c ^^^ d, 0xca62c1d6⟩

/-- The phase of each of the eighty rounds. -/
def phases : List Phase :=
  [choicePhase, parityPhase, majorityPhase, lastPhase].flatMap (List.replicate 20)

def round (s : State) (phase : Phase) (w : UInt32) : State :=
  ⟨rotl s.a 5 + phase.mix s.b s.c s.d + s.e + phase.constant + w, s.a, rotl s.b 30, s.c, s.d⟩

def rounds : State → (phases : List Phase) → (schedule : List UInt32) → State
  | s, phase :: phases, w :: ws => rounds (round s phase w) phases ws
  | s, _, _ => s

/-- The chaining value after a block. -/
def compress (s : State) (block : Bytes) : State :=
  let r := rounds s phases (schedule block)
  ⟨s.a + r.a, s.b + r.b, s.c + r.c, s.d + r.d, s.e + r.e⟩

/-- The octets of the chaining value. -/
def State.bytes (s : State) : Bytes :=
  [s.a, s.b, s.c, s.d, s.e].flatMap Bytes.ofWord32BE

end Sha1

def sha1 : BlockHash Sha1.State where
  blockSize := 64
  initial := Sha1.initial
  compress := Sha1.compress
  lengthField length := Bytes.bigEndian 8 (8 * length)
  output := Sha1.State.bytes
  blockSize_pos := BlockHash.sixtyFour_pos

end AssetCache.Digest
