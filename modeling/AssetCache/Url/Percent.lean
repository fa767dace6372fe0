import AssetCache.Text.Utf8

/-!
# Percent encoding

An octet is written as `%` and two digits where its character may not stand.
-/

namespace AssetCache.Url.Percent

/-- The upper-case hexadecimal digit of a value below sixteen. -/
def digit (n : Nat) : Char :=
  if n < 10 then Char.ofNat ('0'.toNat + n) else Char.ofNat ('A'.toNat + (n - 10))

/-- The written form of an octet. -/
def octet (b : UInt8) : List Char := ['%', digit (b.toNat / 16), digit (b.toNat % 16)]

/-- Whether a character is encoded everywhere: a control or no ASCII. -/
def isEncodedAlways (c : Char) : Bool := c.toNat < 0x20 || 0x7e < c.toNat

/-- A text with the characters encoded that may not stand anywhere, or not here. -/
def encode (reserved text : List Char) : List Char :=
  text.flatMap fun c =>
    if isEncodedAlways c || reserved.contains c then (String.utf8EncodeChar c).flatMap octet
    else [c]

/-- Reserved in a fragment. -/
def fragmentSet : List Char := [' ', '"', '<', '>', Char.ofNat 0x60]

/-- Reserved in a query of a web address. -/
def querySet : List Char := [' ', '"', '#', '<', '>', '\'']

/-- Reserved in a path. -/
def pathSet : List Char := fragmentSet ++ ['#', '?', '{', '}']

/-- Reserved in a user name or a password. -/
def userSet : List Char := pathSet ++ ['/', ':', ';', '=', '@', '[', '\\', ']', '^', '|']

/-- The value of a hexadecimal digit in either case. -/
def value? (b : UInt8) : Option Nat :=
  let n := b.toNat
  if 0x30 ≤ n && n ≤ 0x39 then some (n - 0x30)
  else if 0x61 ≤ n && n ≤ 0x66 then some (n - 0x61 + 10)
  else if 0x41 ≤ n && n ≤ 0x46 then some (n - 0x41 + 10)
  else none

/-- Octets with each written form replaced by its octet; a `%` without two digits stays. -/
def decode : Bytes → Bytes
  | a :: b :: c :: rest =>
    if a = 0x25 then
      match value? b, value? c with
      | some x, some y => UInt8.ofNat (16 * x + y) :: decode rest
      | _, _ => a :: decode (b :: c :: rest)
    else a :: decode (b :: c :: rest)
  | bytes => bytes

end AssetCache.Url.Percent
