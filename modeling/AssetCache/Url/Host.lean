import AssetCache.Url.Domain
import AssetCache.Url.Error
import AssetCache.Url.Percent

/-!
# Hosts

A host is a domain name or an address: of four octets where it ends in a number, of eight pieces
where it stands in brackets.  Each has one written form.
-/

namespace AssetCache.Url

/-- A host of a web address. -/
inductive Host where
  | domain (name : List Char)
  /-- An address of 32 bits. -/
  | ipv4 (address : Nat)
  /-- Eight pieces of 16 bits. -/
  | ipv6 (pieces : List Nat)
  deriving DecidableEq, Repr

namespace Host

/-! ## Addresses of four octets -/

/-- The value of a digit in a base up to sixteen. -/
def digit? (base : Nat) (c : Char) : Option Nat :=
  let v :=
    if '0' ≤ c && c ≤ '9' then some (c.toNat - '0'.toNat)
    else if 'a' ≤ c && c ≤ 'f' then some (c.toNat - 'a'.toNat + 10)
    else none
  v.filter fun v => v < base

/-- The number of digits in a base. -/
def number? (base : Nat) (digits : List Char) : Option Nat :=
  digits.foldl (fun n c => n.bind fun n => (digit? base c).map (base * n + ·)) (some 0)

/-- A part of an address: decimal, octal after `0`, hexadecimal after `0x`. -/
def part? (text : List Char) : Option Nat :=
  match text with
  | [] => none
  | '0' :: 'x' :: digits => number? 16 digits
  | '0' :: c :: rest => number? 8 (c :: rest)
  | digits => number? 10 digits

/-- The parts of a name: a last one that is empty does not count. -/
def parts (name : List Char) : List (List Char) :=
  match (Domain.labels name).reverse with
  | [] :: more@(_ :: _) => more.reverse
  | labels => labels.reverse

/-- Whether the last part of a name is a number, so that the name has to be an address. -/
def endsInNumber (name : List Char) : Bool :=
  match (parts name).getLast? with
  | none => false
  | some last => (!last.isEmpty && last.all Char.isDigit) || (part? last).isSome

/-- The address that parts make: the last one fills all the octets that the others leave. -/
def address? (numbers : List Nat) : Option Nat :=
  match numbers.reverse with
  | [] => none
  | last :: others =>
    let others := others.reverse
    if 3 < others.length || others.any (255 < ·) || 1 <<< (8 * (4 - others.length)) ≤ last then none
    else some ((others.foldl (fun n o => 256 * n + o) 0) <<< (8 * (4 - others.length)) + last)

/-- Read an address of four octets. -/
def ipv4? (name : List Char) : Option Nat := ((parts name).mapM part?).bind address?

/-! ## Addresses of eight pieces -/

/-- Up to `count` hexadecimal digits in front of a text: how many, their value, and the rest. -/
def piece : (count seen value : Nat) → List Char → Nat × Nat × List Char
  | 0, seen, value, text => (seen, value, text)
  | _, seen, value, [] => (seen, value, [])
  | count + 1, seen, value, c :: rest =>
    match digit? 16 c.toLower with
    | some d => piece count (seen + 1) (16 * value + d) rest
    | none => (seen, value, c :: rest)

/-- An octet in decimal, without zeros in front. -/
def octet? (text : List Char) : Option Nat :=
  match text with
  | ['0'] => some 0
  | '0' :: _ => none
  | [] => none
  | digits => if digits.length ≤ 3 then (number? 10 digits).filter (· ≤ 255) else none

/-- Four octets in decimal, as two pieces. -/
def tail? (text : List Char) : Option (List Nat) :=
  match (Domain.labels text).mapM octet? with
  | some [a, b, c, d] => some [256 * a + b, 256 * c + d]
  | _ => none

/-- All eight pieces, with zeros put in place of the gap. -/
def fill? (gap : Option Nat) (pieces : List Nat) : Option (List Nat) :=
  match gap with
  | none => if pieces.length = 8 then some pieces else none
  | some place =>
    some (pieces.take place ++ List.replicate (8 - pieces.length) 0 ++ pieces.drop place)

/-- Read pieces, in at most `steps` of them.  `done` holds in reverse those before, and `gap` is
their number before a gap, which stands for at least one piece. -/
def pieces? : (steps : Nat) → (gap : Option Nat) → (done : List Nat) → List Char → Option (List Nat)
  | _, gap, done, [] => fill? gap done.reverse
  | 0, _, _, _ => none
  | steps + 1, gap, done, text@(c :: after) =>
    let count := done.length + (if gap.isSome then 1 else 0)
    if count = 8 then none
    else if c = ':' then
      if gap.isSome then none else pieces? steps (some done.length) done after
    else
      let (seen, value, rest) := piece 4 0 0 text
      match rest with
      | [] => pieces? steps gap (value :: done) []
      | '.' :: _ =>
        if seen = 0 || 6 < count then none
        else (tail? text).bind fun two => fill? gap (done.reverse ++ two)
      | [':'] => none
      | ':' :: rest => pieces? steps gap (value :: done) rest
      | _ => none

/-- Read an address of eight pieces. -/
def ipv6? (text : List Char) : Option (List Nat) :=
  match text with
  | ':' :: ':' :: rest => pieces? text.length (some 0) [] rest
  | ':' :: _ => none
  | [_] => none
  | [] => none
  | _ => pieces? text.length none [] text

/-! ## Hosts -/

/-- The text between brackets, if a text begins with one; no answer if it does not end with one. -/
def bracketed (text : List Char) : Option (Except UrlError Host) :=
  match text with
  | '[' :: rest =>
    match rest.reverse with
    | ']' :: inside =>
      some <| match ipv6? inside.reverse with
        | some pieces => .ok (.ipv6 pieces)
        | none => .error .invalidIpv6
    | _ => some (.error .invalidIpv6)
  | _ => none

def parse (text : List Char) : Except UrlError Host :=
  match bracketed text with
  | some answer => answer
  | none =>
    match Domain.toAscii? (Percent.decode (Utf8.encode text)) with
    | none => .error .invalidDomain
    | some [] => .error .emptyHost
    | some name =>
      if endsInNumber name then
        match ipv4? name with
        | some address => .ok (.ipv4 address)
        | none => .error .invalidIpv4
      else .ok (.domain name)

/-- Characters that end a host. -/
def terminators : List Char :=
  ['\x00', '\t', '\n', '\r', ' ', '#', '/', ':', '<', '>', '?', '@', '[', '\\', ']', '^', '|']

/-- Check a host that is kept as it is. -/
def checkOpaque (text : List Char) : Except UrlError Unit :=
  match bracketed text with
  | some (.ok _) => .ok ()
  | some (.error e) => .error e
  | none => if text.any terminators.contains then .error .invalidHostCharacter else .ok ()

/-! ## Written forms -/

/-- An address of four octets in decimal. -/
def renderIpv4 (address : Nat) : List Char :=
  ['.'].intercalate ([16777216, 65536, 256, 1].map fun unit =>
    (toString (address / unit % 256)).toList)

/-- The length of the run of zeros in front of pieces. -/
def zerosInFront (pieces : List Nat) : Nat := (pieces.takeWhile (· = 0)).length

/-- The first of the longest runs of zeros: where it begins, and its length. -/
def longestZeros : (start : Nat) → (best : Nat × Nat) → List Nat → Nat × Nat
  | _, best, [] => best
  | start, best, p :: rest =>
    let here := zerosInFront (p :: rest)
    longestZeros (start + 1) (if best.2 < here then (start, here) else best) rest

/-- Pieces in hexadecimal, with colons between them. -/
def renderPieces (pieces : List Nat) : List Char :=
  [':'].intercalate (pieces.map (Nat.toDigits 16))

/-- An address of eight pieces; the first of the longest runs of zeros is left out, unless it is of
one piece. -/
def renderIpv6 (pieces : List Nat) : List Char :=
  let (start, length) := longestZeros 0 (0, 0) pieces
  if length < 2 then renderPieces pieces
  else
    renderPieces (pieces.take start) ++ [':', ':'] ++ renderPieces (pieces.drop (start + length))

/-- The written form of a host. -/
def render : Host → List Char
  | .domain name => name
  | .ipv4 address => renderIpv4 address
  | .ipv6 pieces => '[' :: (renderIpv6 pieces ++ [']'])

end Host

end AssetCache.Url
