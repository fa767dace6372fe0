import AssetCache.Bytes

/-!
# Base 64

Four symbols for three octets, with the standard alphabet.  The last group of four is filled up
with `=`, and reading insists on that and on zeros in the bits that stand for nothing, so that each
byte string has one written form.
-/

namespace AssetCache.Base64

/-- The symbol of a value below sixty-four. -/
def symbol (n : Nat) : Char :=
  if n < 26 then Char.ofNat ('A'.toNat + n)
  else if n < 52 then Char.ofNat ('a'.toNat + (n - 26))
  else if n < 62 then Char.ofNat ('0'.toNat + (n - 52))
  else if n = 62 then '+'
  else '/'

def value? (b : UInt8) : Option Nat :=
  let n := b.toNat
  if 0x41 ≤ n && n ≤ 0x5a then some (n - 0x41)
  else if 0x61 ≤ n && n ≤ 0x7a then some (n - 0x61 + 26)
  else if 0x30 ≤ n && n ≤ 0x39 then some (n - 0x30 + 52)
  else if n = 0x2b then some 62
  else if n = 0x2f then some 63
  else none

/-- The octet of `=`. -/
def pad : UInt8 := 0x3d

/-- The symbols of a byte string. -/
def encodeChars : Bytes → List Char
  | a :: b :: c :: rest =>
    symbol (a.toNat / 4) :: symbol (a.toNat % 4 * 16 + b.toNat / 16) ::
      symbol (b.toNat % 16 * 4 + c.toNat / 64) :: symbol (c.toNat % 64) :: encodeChars rest
  | [a, b] =>
    [symbol (a.toNat / 4), symbol (a.toNat % 4 * 16 + b.toNat / 16), symbol (b.toNat % 16 * 4), '=']
  | [a] => [symbol (a.toNat / 4), symbol (a.toNat % 4 * 16), '=', '=']
  | [] => []

/-- The symbols of a byte string, as a string. -/
def encode (bytes : Bytes) : String := String.ofList (encodeChars bytes)

/-- Why octets are not the written form of a byte string. -/
inductive Error where
  /-- An octet that may not stand at its place. -/
  | invalidSymbol (octet : UInt8) (offset : Nat)
  /-- The text ends where it cannot, after this many symbols. -/
  | invalidLength (length : Nat)
  /-- The last group is not filled up to four. -/
  | invalidPadding
  /-- A last symbol with bits that stand for nothing and are not zero. -/
  | invalidLastSymbol (octet : UInt8) (offset : Nat)
  deriving DecidableEq, Repr

/-- The octets of whole groups of four symbols. -/
def joinQuads : List Nat → Bytes
  | a :: b :: c :: d :: rest =>
    UInt8.ofNat (a * 4 + b / 16) :: UInt8.ofNat (b % 16 * 16 + c / 4) ::
      UInt8.ofNat (c % 4 * 64 + d) :: joinQuads rest
  | _ => []

/-- The values of symbols, none of which may be padding. -/
def decodeSymbols : (offset : Nat) → Bytes → Except Error (List Nat)
  | _, [] => .ok []
  | offset, b :: rest =>
    match value? b with
    | none => .error (.invalidSymbol b offset)
    | some v =>
      match decodeSymbols (offset + 1) rest with
      | .ok values => .ok (v :: values)
      | .error e => .error e

/-- The symbols of the last group and the number of `=` after them.  `index` counts from the start
of the group; `padding` is the offset of the first `=` so far and how many there were. -/
def decodeLast (start : Nat) : (index : Nat) → (padding : Option (Nat × Nat)) → Bytes →
    Except Error (List (UInt8 × Nat) × Nat)
  | _, padding, [] => .ok ([], (padding.map (·.2)).getD 0)
  | index, padding, b :: rest =>
    if b = pad then
      if index < 2 then .error (.invalidSymbol pad (start + index))
      else
        match padding with
        | none => decodeLast start (index + 1) (some (start + index, 1)) rest
        | some (first, count) => decodeLast start (index + 1) (some (first, count + 1)) rest
    else
      match padding, value? b with
      | some (first, _), _ => .error (.invalidSymbol pad first)
      | none, none => .error (.invalidSymbol b (start + index))
      | none, some v =>
        match decodeLast start (index + 1) none rest with
        | .ok (symbols, count) => .ok ((b, v) :: symbols, count)
        | .error e => .error e

/-- The octets of a last group of two to four symbols, which begins at offset `start`. -/
def joinLast (start : Nat) : List (UInt8 × Nat) → Except Error Bytes
  | [(_, a), (s, b)] =>
    if b % 16 = 0 then .ok [UInt8.ofNat (a * 4 + b / 16)]
    else .error (.invalidLastSymbol s (start + 1))
  | [(_, a), (_, b), (s, c)] =>
    if c % 4 = 0 then .ok [UInt8.ofNat (a * 4 + b / 16), UInt8.ofNat (b % 16 * 16 + c / 4)]
    else .error (.invalidLastSymbol s (start + 2))
  | symbols => .ok (joinQuads (symbols.map (·.2)))

/-- Where the last group of `n` octets begins. -/
def lastStart (n : Nat) : Nat :=
  if n = 0 then 0 else if n % 4 = 0 then n - 4 else n - n % 4

/-- Read the written form of a byte string. -/
def decode (text : Bytes) : Except Error Bytes :=
  let n := text.length
  let start := lastStart n
  match (if n % 4 = 1 then text.getLast? else none) with
  | some b =>
    if b != pad && (value? b).isNone then .error (.invalidSymbol b (n - 1))
    else decodeFrom start
  | none => decodeFrom start
where
  /-- Read the whole groups before `start`, then the last group. -/
  decodeFrom (start : Nat) : Except Error Bytes :=
    match decodeSymbols 0 (text.take start) with
    | .error e => .error e
    | .ok values =>
      match decodeLast start 0 none (text.drop start) with
      | .error e => .error e
      | .ok (symbols, padding) =>
        if text.length ≠ 0 && symbols.length < 2 then
          .error (.invalidLength (start + symbols.length))
        else if (padding + symbols.length) % 4 ≠ 0 then .error .invalidPadding
        else
          match joinLast start symbols with
          | .error e => .error e
          | .ok last => .ok (joinQuads values ++ last)

/-- The wording of a reading error. -/
def Error.message : Error → String
  | .invalidSymbol octet offset => s!"Invalid symbol {octet.toNat}, offset {offset}."
  | .invalidLength length => s!"Invalid input length: {length}"
  | .invalidPadding => "Invalid padding"
  | .invalidLastSymbol octet offset => s!"Invalid last symbol {octet.toNat}, offset {offset}."

end AssetCache.Base64
