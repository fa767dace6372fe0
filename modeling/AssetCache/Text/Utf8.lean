import AssetCache.Bytes

/-!
# UTF-8

The octets of a text, and back.  Octets that are no text are read in two ways: `decode?` refuses
them, `decodeLossy` puts U+FFFD for each longest run of octets that begins a character but does not
finish it, and for each octet that can begin none.
-/

namespace AssetCache.Utf8

def encode (text : List Char) : Bytes := text.flatMap String.utf8EncodeChar

def ofString (s : String) : Bytes := encode s.toList

/-- The number of octets of a string. -/
def length (s : String) : Nat := (ofString s).length

/-- Octets that follow the first one of a character. -/
def isContinuation (b : UInt8) : Bool := 0x80 ≤ b && b ≤ 0xbf

/-- What may come second after a first octet that begins three or four octets: this rules out
overlong forms, surrogates and values above U+10FFFF. -/
def isSecond (first second : UInt8) : Bool :=
  isContinuation second &&
    (first != 0xe0 || 0xa0 ≤ second) && (first != 0xed || second ≤ 0x9f) &&
    (first != 0xf0 || 0x90 ≤ second) && (first != 0xf4 || second ≤ 0x8f)

/-- The six bits that a following octet carries. -/
def low (b : UInt8) : Nat := b.toNat % 64

/-- What stands at the front of octets that begin with `b`: a character, or none where they are no
text, and the number of octets after `b` that it takes up. -/
def piece (b : UInt8) (rest : Bytes) : Option Char × Nat :=
  if b < 0x80 then (some (Char.ofNat b.toNat), 0)
  else if b < 0xc2 then (none, 0)
  else if b < 0xe0 then
    match rest with
    | c :: _ =>
      if isContinuation c then (some (Char.ofNat (b.toNat % 32 * 64 + low c)), 1) else (none, 0)
    | [] => (none, 0)
  else if b < 0xf0 then
    match rest with
    | c :: d :: _ =>
      if !isSecond b c then (none, 0)
      else if !isContinuation d then (none, 1)
      else (some (Char.ofNat ((b.toNat % 16 * 64 + low c) * 64 + low d)), 2)
    | [c] => (none, if isSecond b c then 1 else 0)
    | [] => (none, 0)
  else if b < 0xf5 then
    match rest with
    | c :: d :: e :: _ =>
      if !isSecond b c then (none, 0)
      else if !isContinuation d then (none, 1)
      else if !isContinuation e then (none, 2)
      else (some (Char.ofNat (((b.toNat % 8 * 64 + low c) * 64 + low d) * 64 + low e)), 3)
    | [c, d] => (none, if !isSecond b c then 0 else if isContinuation d then 2 else 1)
    | [c] => (none, if isSecond b c then 1 else 0)
    | [] => (none, 0)
  else (none, 0)

/-- The pieces of `bytes` in front of `done`, which is held in reverse, after `skip` octets of
`bytes` that belong to a piece already taken. -/
def piecesFrom : (skip : Nat) → (bytes : Bytes) → (done : List (Option Char)) → List (Option Char)
  | _, [], done => done.reverse
  | skip + 1, _ :: rest, done => piecesFrom skip rest done
  | 0, b :: rest, done => piecesFrom (piece b rest).2 rest ((piece b rest).1 :: done)

/-- The characters of `bytes`, `none` for each piece that is no character. -/
def pieces (bytes : Bytes) : List (Option Char) := piecesFrom 0 bytes []

/-- The text of `bytes`, if they are text. -/
def decode? (bytes : Bytes) : Option (List Char) := (pieces bytes).mapM id

/-- The text of `bytes`, with U+FFFD for each piece that is no character. -/
def decodeLossy (bytes : Bytes) : List Char := (pieces bytes).map (·.getD '\ufffd')

end AssetCache.Utf8
