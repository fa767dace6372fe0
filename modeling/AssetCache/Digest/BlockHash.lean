import AssetCache.Bytes

/-!
# Digests of padded blocks

The classic digests all have one shape: the message is padded to whole blocks, the padding ends
with the length of the message, and a chaining value is carried from block to block.  `BlockHash`
holds what differs; `digest` is the function of a whole message and `Stream` computes it from
chunks, keeping the octets that do not yet fill a block.

Results: 1. padding ends on a block boundary (`length_padding`).
-/

namespace AssetCache.Digest

/-- What one such digest consists of; `σ` is its chaining value. -/
structure BlockHash (σ : Type) where
  /-- Octets in a block. -/
  blockSize : Nat
  /-- The chaining value before the first block. -/
  initial : σ
  /-- The chaining value after a block. -/
  compress : σ → Bytes → σ
  /-- The octets that state a message of this many octets. -/
  lengthField : Nat → Bytes
  /-- The digest that a last chaining value stands for. -/
  output : σ → Bytes
  /-- A block holds something. -/
  blockSize_pos : 0 < blockSize

namespace BlockHash

theorem sixtyFour_pos : 0 < 64 := by decide

variable {σ : Type} (H : BlockHash σ)

/-- Carry the chaining value over the first `count` blocks of `data`. -/
def absorb : (count : Nat) → σ → (data : Bytes) → σ
  | 0, chain, _ => chain
  | count + 1, chain, data =>
    absorb count (H.compress chain (data.take H.blockSize)) (data.drop H.blockSize)

/-- Zero octets between the closing bit of a message of `length` octets and its length field. -/
def zeroCount (length : Nat) : Nat :=
  let used := (length + 1 + (H.lengthField length).length) % H.blockSize
  if used = 0 then 0 else H.blockSize - used

/-- What is appended to a message of `length` octets: a closing one bit, zeros, the length. -/
def padding (length : Nat) : Bytes :=
  0x80 :: (List.replicate (H.zeroCount length) 0 ++ H.lengthField length)

/-- The chaining value over `data`, of which all octets stand in whole blocks. -/
def absorbAll (chain : σ) (data : Bytes) : σ :=
  H.absorb (data.length / H.blockSize) chain data

/-- The digest of a whole message. -/
def digest (message : Bytes) : Bytes :=
  H.output (H.absorbAll H.initial (message ++ H.padding message.length))

/-- A digest under way. -/
structure Stream (σ : Type) where
  /-- The chaining value after the whole blocks so far. -/
  chain : σ
  /-- The octets after them, fewer than a block. -/
  pending : Bytes
  /-- All octets so far. -/
  count : Nat

def start : Stream σ := ⟨H.initial, [], 0⟩

def update (s : Stream σ) (chunk : Bytes) : Stream σ :=
  let data := s.pending ++ chunk
  let blocks := data.length / H.blockSize
  ⟨H.absorb blocks s.chain data, data.drop (blocks * H.blockSize), s.count + chunk.length⟩

/-- The digest of all that was fed. -/
def finish (s : Stream σ) : Bytes :=
  H.output (H.absorbAll s.chain (s.pending ++ H.padding s.count))

theorem length_padding (length : Nat) :
    (length + (H.padding length).length) % H.blockSize = 0 := by
  have hpos := H.blockSize_pos
  simp only [padding, List.length_cons, List.length_append, List.length_replicate, zeroCount]
  split
  next h => rw [← h]; congr 1; omega
  next h =>
    have hlt := Nat.mod_lt (length + 1 + (H.lengthField length).length) hpos
    have hdiv := Nat.div_add_mod (length + 1 + (H.lengthField length).length) H.blockSize
    have : length + (H.blockSize - (length + 1 + (H.lengthField length).length) % H.blockSize +
        (H.lengthField length).length + 1) =
        H.blockSize * ((length + 1 + (H.lengthField length).length) / H.blockSize + 1) := by
      rw [Nat.mul_add]; omega
    rw [this, Nat.mul_mod_right]

end BlockHash

end AssetCache.Digest
