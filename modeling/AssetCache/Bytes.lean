/-!
# Byte strings

A blob, a digest and the text of a request are all byte strings here: lists of octets.  The two
encodings of a number as a fixed count of octets, `bigEndian` and `littleEndian`, are used by the
digests for their words and for the length that they append to a message.

Results: 1. an encoding has the width asked for (`length_bigEndian`, `length_littleEndian`).
-/

namespace AssetCache

/-- A string of octets. -/
abbrev Bytes := List UInt8

namespace Bytes

/-- The lowest `width` octets of `n`, the most significant first. -/
def bigEndian : (width : Nat) → (n : Nat) → Bytes
  | 0, _ => []
  | width + 1, n => UInt8.ofNat (n >>> (8 * width)) :: bigEndian width n

/-- The lowest `width` octets of `n`, the least significant first. -/
def littleEndian : (width : Nat) → (n : Nat) → Bytes
  | 0, _ => []
  | width + 1, n => UInt8.ofNat n :: littleEndian width (n / 256)

@[simp] theorem length_bigEndian (width n : Nat) : (bigEndian width n).length = width := by
  induction width with
  | zero => rfl
  | succ width ih => simp [bigEndian, ih]

@[simp] theorem length_littleEndian (width n : Nat) : (littleEndian width n).length = width := by
  induction width generalizing n with
  | zero => rfl
  | succ width ih => simp [littleEndian, ih]

/-- The words of four octets each, the most significant octet first; a short rest is left out. -/
def words32BE : Bytes → List UInt32
  | a :: b :: c :: d :: rest =>
    ((a.toUInt32 <<< 24) ||| (b.toUInt32 <<< 16) ||| (c.toUInt32 <<< 8) ||| d.toUInt32) ::
      words32BE rest
  | _ => []

/-- The words of four octets each, the least significant octet first; a short rest is left out. -/
def words32LE : Bytes → List UInt32
  | a :: b :: c :: d :: rest =>
    (a.toUInt32 ||| (b.toUInt32 <<< 8) ||| (c.toUInt32 <<< 16) ||| (d.toUInt32 <<< 24)) ::
      words32LE rest
  | _ => []

/-- The words of eight octets each, the most significant octet first; a short rest is left out. -/
def words64BE : Bytes → List UInt64
  | a :: b :: c :: d :: e :: f :: g :: h :: rest =>
    ((a.toUInt64 <<< 56) ||| (b.toUInt64 <<< 48) ||| (c.toUInt64 <<< 40) ||| (d.toUInt64 <<< 32) |||
      (e.toUInt64 <<< 24) ||| (f.toUInt64 <<< 16) ||| (g.toUInt64 <<< 8) ||| h.toUInt64) ::
      words64BE rest
  | _ => []

/-- The four octets of a word, the most significant first. -/
def ofWord32BE (w : UInt32) : Bytes :=
  [(w >>> 24).toUInt8, (w >>> 16).toUInt8, (w >>> 8).toUInt8, w.toUInt8]

/-- The four octets of a word, the least significant first. -/
def ofWord32LE (w : UInt32) : Bytes :=
  [w.toUInt8, (w >>> 8).toUInt8, (w >>> 16).toUInt8, (w >>> 24).toUInt8]

/-- The eight octets of a word, the most significant first. -/
def ofWord64BE (w : UInt64) : Bytes :=
  [(w >>> 56).toUInt8, (w >>> 48).toUInt8, (w >>> 40).toUInt8, (w >>> 32).toUInt8,
    (w >>> 24).toUInt8, (w >>> 16).toUInt8, (w >>> 8).toUInt8, w.toUInt8]

end Bytes

end AssetCache
