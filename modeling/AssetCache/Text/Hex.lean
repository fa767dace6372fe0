import AssetCache.Bytes
import AssetCache.Text.Quoted

/-!
# Hexadecimal

Two digits for each octet.  Digits are written in lower case and read in both.
-/

namespace AssetCache.Hex

/-- The digit of a value below sixteen. -/
def digit (n : Nat) : Char :=
  if n < 10 then Char.ofNat ('0'.toNat + n) else Char.ofNat ('a'.toNat + (n - 10))

/-- The digits of one octet, the high one first. -/
def digits (b : UInt8) : List Char := [digit (b.toNat / 16), digit (b.toNat % 16)]

/-- The digits of a byte string. -/
def encodeChars (bytes : Bytes) : List Char := bytes.flatMap digits

/-- The digits of a byte string, as a string. -/
def encode (bytes : Bytes) : String := String.ofList (encodeChars bytes)

/-- A digit as it is written here: in lower case. -/
def isLowerDigit (c : Char) : Bool := ('0' ≤ c && c ≤ '9') || ('a' ≤ c && c ≤ 'f')

/-- The value of a digit in either case. -/
def value? (b : UInt8) : Option Nat :=
  let n := b.toNat
  if 0x30 ≤ n && n ≤ 0x39 then some (n - 0x30)
  else if 0x61 ≤ n && n ≤ 0x66 then some (n - 0x61 + 10)
  else if 0x41 ≤ n && n ≤ 0x46 then some (n - 0x41 + 10)
  else none

/-- Why octets are not hexadecimal digits in pairs. -/
inductive Error where
  /-- Their number is odd. -/
  | oddLength
  /-- The first octet that is no digit, and its position. -/
  | invalidDigit (octet : UInt8) (position : Nat)
  deriving DecidableEq, Repr

/-- The wording of a reading error; an octet is shown as the character of that number. -/
def Error.message : Error → String
  | .oddLength => "Odd number of digits"
  | .invalidDigit octet position =>
    s!"Invalid character {Quoted.char (Char.ofNat octet.toNat)} at position {position}"

/-- Read the pairs of digits that begin at `position`. -/
def decodePairs : (position : Nat) → (text : Bytes) → Except Error Bytes
  | position, a :: b :: rest =>
    match value? a, value? b with
    | none, _ => .error (.invalidDigit a position)
    | some _, none => .error (.invalidDigit b (position + 1))
    | some x, some y =>
      match decodePairs (position + 2) rest with
      | .ok bytes => .ok (UInt8.ofNat (16 * x + y) :: bytes)
      | .error e => .error e
  | _, _ => .ok []

/-- Read digits.  An odd number of them is reported before a character that is no digit. -/
def decode (text : Bytes) : Except Error Bytes :=
  if text.length % 2 = 1 then .error .oddLength else decodePairs 0 text

end AssetCache.Hex
