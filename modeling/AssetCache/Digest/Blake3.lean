import AssetCache.Bytes

/-!
# BLAKE3

The message is cut into chunks of 1024 octets, the leaves of a binary tree in which every left
subtree is full and as large as it can be.  Each node of the tree has a chaining value; the root's
is taken with a flag of its own.

`digest` is the function of a whole message, by recursion down the tree.
`Stream` computes it from chunks of any sizes: it keeps the last leaf's octets and, as the digits
of a binary counter, the chaining values of the full subtrees to its left.
-/

namespace AssetCache.Digest.Blake3

/-- Four words that are mixed side by side. -/
structure Row where
  (x0 x1 x2 x3 : UInt32)
  deriving DecidableEq

namespace Row

/-- Apply a function of two words lane by lane. -/
def zipWith (f : UInt32 → UInt32 → UInt32) (r s : Row) : Row :=
  ⟨f r.x0 s.x0, f r.x1 s.x1, f r.x2 s.x2, f r.x3 s.x3⟩

def add (r s : Row) : Row := zipWith (· + ·) r s

def xor (r s : Row) : Row := zipWith (· ^^^ ·) r s

/-- Turn every word right by `n` bits, `0 < n < 32`. -/
def rotr (n : UInt32) (r : Row) : Row :=
  let turn (x : UInt32) := (x >>> n) ||| (x <<< (32 - n))
  ⟨turn r.x0, turn r.x1, turn r.x2, turn r.x3⟩

/-- The lanes moved one place to the left. -/
def shift (r : Row) : Row := ⟨r.x1, r.x2, r.x3, r.x0⟩

def toList (r : Row) : List UInt32 := [r.x0, r.x1, r.x2, r.x3]

end Row

/-- A chaining value: eight words. -/
structure Chain where
  (low high : Row)
  deriving DecidableEq

/-- The sixteen words under mixing, as four rows. -/
structure State where
  (a b c d : Row)

/-- The chaining value that every leaf starts from. -/
def initial : Chain :=
  ⟨⟨0x6a09e667, 0xbb67ae85, 0x3c6ef372, 0xa54ff53a⟩,
    ⟨0x510e527f, 0x9b05688c, 0x1f83d9ab, 0x5be0cd19⟩⟩

/-- Set on the first block of a leaf. -/
def leafStart : UInt32 := 1

/-- Set on the last block of a leaf. -/
def leafEnd : UInt32 := 2

/-- Set on a node that joins two subtrees. -/
def parentFlag : UInt32 := 4

/-- Set on the root. -/
def rootFlag : UInt32 := 8

/-- Mix four columns, with two words of the message for each. -/
def mix (s : State) (m1 m2 : Row) : State :=
  let a := (s.a.add s.b).add m1
  let d := (s.d.xor a).rotr 16
  let c := s.c.add d
  let b := (s.b.xor c).rotr 12
  let a := (a.add b).add m2
  let d := (d.xor a).rotr 8
  let c := c.add d
  let b := (b.xor c).rotr 7
  ⟨a, b, c, d⟩

/-- One round: the columns, then the diagonals. -/
def round (s : State) (message : List UInt32) : State :=
  let word (i : Nat) := message.getD i 0
  let s := mix s ⟨word 0, word 2, word 4, word 6⟩ ⟨word 1, word 3, word 5, word 7⟩
  let s := mix ⟨s.a, s.b.shift, s.c.shift.shift, s.d.shift.shift.shift⟩
    ⟨word 8, word 10, word 12, word 14⟩ ⟨word 9, word 11, word 13, word 15⟩
  ⟨s.a, s.b.shift.shift.shift, s.c.shift.shift, s.d.shift⟩

/-- The order in which the next round reads the words of this one. -/
def permutation : List Nat := [2, 6, 3, 10, 7, 0, 4, 13, 1, 11, 12, 5, 9, 14, 15, 8]

/-- `count` rounds, the message permuted between them. -/
def rounds : (count : Nat) → State → (message : List UInt32) → State
  | 0, s, _ => s
  | count + 1, s, message =>
    rounds count (round s message) (permutation.map fun i => message.getD i 0)

/-- The input of one compression: all that makes up a block of a leaf, or a parent. -/
structure Node where
  /-- The chaining value that enters. -/
  chain : Chain
  /-- Sixteen words of message. -/
  message : List UInt32
  /-- The number of the leaf; zero for a parent. -/
  counter : UInt64
  /-- Octets of message. -/
  length : UInt32
  /-- The flags. -/
  flags : UInt32

/-- The eight words that come out of a compression. -/
def Node.compress (n : Node) : Chain :=
  let s := rounds 7 ⟨n.chain.low, n.chain.high, initial.low,
    ⟨n.counter.toUInt32, (n.counter >>> 32).toUInt32, n.length, n.flags⟩⟩ n.message
  ⟨s.a.xor s.c, s.b.xor s.d⟩

/-- The digest of a tree whose root is this node. -/
def Node.root (n : Node) : Bytes :=
  let c := Node.compress { n with flags := n.flags ||| rootFlag }
  (c.low.toList ++ c.high.toList).flatMap Bytes.ofWord32LE

/-- The words of a block, filled up with zeros. -/
def blockWords (block : Bytes) : List UInt32 :=
  Bytes.words32LE (block ++ List.replicate (64 - block.length) 0)

/-- Run through `count` blocks of a leaf, all but its last, and stop at the last one. -/
def leafFrom (counter : UInt64) : (count : Nat) → Chain → (flags : UInt32) → Bytes → Node
  | 0, chain, flags, data =>
    ⟨chain, blockWords data, counter, UInt32.ofNat data.length, flags ||| leafEnd⟩
  | count + 1, chain, flags, data =>
    leafFrom counter count
      (Node.compress ⟨chain, blockWords (data.take 64), counter, 64, flags⟩) 0 (data.drop 64)

/-- The leaf of a chunk of at most 1024 octets; an empty one has a single empty block. -/
def leaf (counter : UInt64) (data : Bytes) : Node :=
  leafFrom counter ((data.length - 1) / 64) initial leafStart data

/-- The node that joins two subtrees. -/
def parent (left right : Chain) : Node :=
  ⟨initial, left.low.toList ++ left.high.toList ++ right.low.toList ++ right.high.toList, 0, 64,
    parentFlag⟩

def chunkSize : Nat := 1024

/-- The tree of height at most `height` over the chunks of `data`, numbered from `first`: the left
subtree is full and as large as it can be. -/
def tree : (height first : Nat) → (data : Bytes) → Node
  | 0, first, data => leaf (UInt64.ofNat first) data
  | height + 1, first, data =>
    let half := chunkSize <<< height
    if data.length ≤ half then tree height first data
    else
      parent (tree height first (data.take half)).compress
        (tree height (first + 1 <<< height) (data.drop half)).compress

/-- Whole chunks that stand before the last chunk of a message; the last holds at least one octet of
a message that is not empty. -/
def fullChunks (length : Nat) : Nat := (length - 1) / chunkSize

/-- The digest of a whole message. -/
def digest (message : Bytes) : Bytes :=
  (tree ((fullChunks message.length).log2 + 1) 0 message).root

/-- A digest under way. -/
structure Stream where
  /-- The full subtrees so far, the smallest first: entry `i` is one of `2 ^ i` leaves, if any. -/
  subtrees : List (Option Chain)
  /-- Leaves in them. -/
  count : Nat
  /-- The octets after them; never none once anything was fed. -/
  pending : Bytes

/-- Add a subtree to the counter: two of one size are joined and carried. -/
def carry : Chain → List (Option Chain) → List (Option Chain)
  | c, [] => [some c]
  | c, none :: rest => some c :: rest
  | c, some left :: rest => none :: carry (parent left c).compress rest

def start : Stream := ⟨[], 0, []⟩

/-- Take in `chunks` whole chunks from the front of `data`, and keep the rest. -/
def Stream.absorb : (chunks : Nat) → Stream → (data : Bytes) → Stream
  | 0, s, data => { s with pending := data }
  | chunks + 1, s, data =>
    let c := (leaf (UInt64.ofNat s.count) (data.take chunkSize)).compress
    Stream.absorb chunks ⟨carry c s.subtrees, s.count + 1, []⟩ (data.drop chunkSize)

def Stream.update (s : Stream) (chunk : Bytes) : Stream :=
  let data := s.pending ++ chunk
  s.absorb (fullChunks data.length) data

/-- Join a node with the subtrees to its left, the smallest first. -/
def joinLeft : Node → List (Option Chain) → Node
  | n, [] => n
  | n, none :: rest => joinLeft n rest
  | n, some left :: rest => joinLeft (parent left n.compress) rest

/-- The digest of all that was fed. -/
def Stream.finish (s : Stream) : Bytes :=
  (joinLeft (leaf (UInt64.ofNat s.count) s.pending) s.subtrees).root

end AssetCache.Digest.Blake3
