/-!
# Labels in ASCII

A label with other characters than ASCII is written as its ASCII characters, a `-`, and numbers in
base 36 of variable length.  Each number tells how far the next character, in ascending order of
characters and then of places, is from the one before it.
-/

namespace AssetCache.Url.Punycode

/-- Digits are letters, then decimal digits. -/
def digit (n : Nat) : Char :=
  if n < 26 then Char.ofNat ('a'.toNat + n) else Char.ofNat ('0'.toNat + (n - 26))

def value? (c : Char) : Option Nat :=
  if 'a' ≤ c && c ≤ 'z' then some (c.toNat - 'a'.toNat)
  else if '0' ≤ c && c ≤ '9' then some (c.toNat - '0'.toNat + 26)
  else none

/-- Below this a digit at weight `k` ends a number. -/
def threshold (k bias : Nat) : Nat := min 26 (max 1 (k - bias))

/-- Divide until a difference is small, and count the divisions by the digits that they save. -/
def shrink : (steps : Nat) → (k delta : Nat) → Nat
  | 0, k, delta => k + 36 * delta / (delta + 38)
  | steps + 1, k, delta =>
    if 455 < delta then shrink steps (k + 36) (delta / 35) else k + 36 * delta / (delta + 38)

/-- The bias after a number: it fits the length of the next one to that of this one. -/
def adapt (delta count : Nat) (first : Bool) : Nat :=
  let delta := if first then delta / 700 else delta / 2
  shrink delta 0 (delta + delta / count)

/-- The bias before the first number. -/
def initialBias : Nat := 72

/-- The first character that is not ASCII. -/
def firstOther : Nat := 0x80

/-- Numbers stay below this. -/
def limit : Nat := UInt32.size

/-! ## Writing -/

/-- The digits of a number, of which there are at most `steps + 1`. -/
def writeNumber (bias : Nat) : (steps k n : Nat) → List Char
  | 0, _, n => [digit n]
  | steps + 1, k, n =>
    let t := threshold k bias
    if n < t then [digit n]
    else digit (t + (n - t) % (36 - t)) :: writeNumber bias steps (k + 36) ((n - t) / (36 - t))

/-- What is carried along while a label is written. -/
structure Writing where
  (delta bias count : Nat)
  /-- The digits so far, in reverse. -/
  digits : List Char

/-- Pass one character of the label while the places of `target` are written. -/
def Writing.pass (basic target : Nat) (w : Writing) (c : Char) : Writing :=
  if c.toNat < target then { w with delta := w.delta + 1 }
  else if c.toNat = target then
    ⟨0, adapt w.delta (w.count + 1) (w.count = basic), w.count + 1,
      (writeNumber w.bias w.delta 36 w.delta).reverse ++ w.digits⟩
  else w

/-- Write the places of each of `targets`, which ascend. -/
def writeTargets (label : List Char) (basic : Nat) : (next : Nat) → Writing → List Nat → Writing
  | _, w, [] => w
  | next, w, target :: rest =>
    let w := { w with delta := w.delta + (target - next) * (w.count + 1) }
    let w := label.foldl (Writing.pass basic target) w
    writeTargets label basic (target + 1) { w with delta := w.delta + 1 } rest

/-- The ASCII form of a label. -/
def encode (label : List Char) : List Char :=
  let basic := label.filter fun c => c.toNat < firstOther
  let targets := ((label.filter fun c => firstOther ≤ c.toNat).map Char.toNat).eraseDups.mergeSort
  let w := writeTargets label basic.length firstOther ⟨0, initialBias, basic.length, []⟩ targets
  basic ++ (if basic.isEmpty then [] else ['-']) ++ w.digits.reverse

/-! ## Reading -/

/-- Read the digits of a number onto `sum`, the next digit having weight `weight`. -/
def readNumber (bias : Nat) : (k weight sum : Nat) → List Char → Option (Nat × List Char)
  | _, _, _, [] => none
  | k, weight, sum, c :: rest =>
    match value? c with
    | none => none
    | some d =>
      let sum := sum + d * weight
      let t := threshold k bias
      if limit ≤ sum || limit ≤ weight then none
      else if d < t then some (sum, rest)
      else readNumber bias (k + 36) (weight * (36 - t)) sum rest

/-- Insert the characters that numbers tell, in at most `steps` numbers.  `n` is the last character
told, and `place` the place after it. -/
def readCharacters : (steps : Nat) → (n place bias : Nat) → (label digits : List Char) →
    Option (List Char)
  | _, _, _, _, label, [] => some label
  | 0, _, _, _, _, _ => none
  | steps + 1, n, place, bias, label, digits =>
    match readNumber bias 36 1 place digits with
    | none => none
    | some (sum, rest) =>
      let count := label.length + 1
      let n := n + sum / count
      if h : n.isValidChar then
        readCharacters steps n (sum % count + 1) (adapt (sum - place) count (place = 0))
          (label.insertIdx (sum % count) (Char.ofNatAux n h)) rest
      else none

/-- What stands before and after the last `-`; a `-` in front counts as part of what follows. -/
def splitLast (text : List Char) : List Char × List Char :=
  let after := (text.reverse.takeWhile (· ≠ '-')).reverse
  let before := text.take (text.length - after.length - 1)
  if before.isEmpty then ([], text) else (before, after)

/-- The label with an ASCII form. -/
def decode? (text : List Char) : Option (List Char) :=
  let (basic, digits) := splitLast text
  readCharacters digits.length firstOther 0 initialBias basic digits

end AssetCache.Url.Punycode
