import AssetCache.Unicode.CombiningClass
import AssetCache.Unicode.Decomposition

/-!
# Canonical composition

Texts that look and mean the same have one composed form (`compose`): every character is taken
apart, the marks of each base are put into order, and what can be put together again is.
-/

namespace AssetCache.Unicode

/-! ## Syllables of Hangul, which are composed by their numbers -/

/-- Leading consonants begin here. -/
def hangulLead : Nat := 0x1100

/-- Vowels begin here. -/
def hangulVowel : Nat := 0x1161

/-- Trailing consonants begin after this. -/
def hangulTrail : Nat := 0x11a7

/-- Syllables begin here. -/
def hangulSyllable : Nat := 0xac00

/-- The parts of a syllable by its place among syllables. -/
def hangulParts (index : Nat) : List Char :=
  let lead := Char.ofNat (hangulLead + index / 588)
  let vowel := Char.ofNat (hangulVowel + index % 588 / 28)
  if index % 28 = 0 then [lead, vowel] else [lead, vowel, Char.ofNat (hangulTrail + index % 28)]

/-- The syllable of two characters, if they make one. -/
def hangulPair? (a b : Nat) : Option Char :=
  if hangulLead ≤ a && a < hangulLead + 19 && hangulVowel ≤ b && b < hangulVowel + 21 then
    some (Char.ofNat (hangulSyllable + ((a - hangulLead) * 21 + (b - hangulVowel)) * 28))
  else if hangulSyllable ≤ a && a < hangulSyllable + 11172 && (a - hangulSyllable) % 28 == 0 &&
      hangulTrail < b && b < hangulTrail + 28 then
    some (Char.ofNat (a + (b - hangulTrail)))
  else none

/-! ## Taking apart -/

/-- All that a character stands for, when composed characters are taken apart `depth` deep. -/
def expand : (depth : Nat) → Char → List Char
  | 0, c => [c]
  | depth + 1, c =>
    let n := c.toNat
    if n < 0xc0 then [c]
    else if hangulSyllable ≤ n && n < hangulSyllable + 11172 then hangulParts (n - hangulSyllable)
    else
      match compositions.find? n with
      | some [a, b] => expand depth (Char.ofNat a) ++ [Char.ofNat b]
      | _ =>
        match expansions.find? n with
        | some values => values.map Char.ofNat
        | none => [c]

/-- No character is composed of characters more than so deep. -/
def expansionDepth : Nat := 4

/-! ## Order -/

/-- Put a character before a text in order: a mark passes marks of lower classes. -/
def placeMark (c : Char) : List Char → List Char
  | [] => [c]
  | d :: rest =>
    if combiningClass d ≠ 0 && combiningClass d < combiningClass c then d :: placeMark c rest
    else c :: d :: rest

/-- A text with all characters taken apart and marks in order. -/
def decompose (text : List Char) : List Char :=
  (text.flatMap (expand expansionDepth)).foldr placeMark []

/-! ## Putting together -/

/-- The composed character of two. -/
def pair? (a b : Char) : Option Char :=
  match hangulPair? a.toNat b.toNat with
  | some c => some c
  | none =>
    (List.find? (fun r => r.values == [a.toNat, b.toNat]) compositions).map fun r =>
      Char.ofNat r.first

/-- Put together a text that was taken apart.  `base` is the last character that others may join,
`between` holds in reverse the marks after it that did not join, and `last` is the class of the last
of them; a mark joins only past marks of lower classes. -/
def joinFrom : (base : Char) → (between : List Char) → (last : Nat) → List Char → List Char
  | base, between, _, [] => base :: between.reverse
  | base, between, last, c :: rest =>
    let k := combiningClass c
    let joined := if between.isEmpty || last < k then pair? base c else none
    match joined with
    | some d => joinFrom d between last rest
    | none =>
      if k = 0 then base :: between.reverse ++ joinFrom c [] 0 rest
      else joinFrom base (c :: between) k rest

/-- Put together a text that was taken apart; marks at its front have nothing to join. -/
def join : List Char → List Char
  | [] => []
  | c :: rest => if combiningClass c = 0 then joinFrom c [] 0 rest else c :: join rest

/-- The composed form of a text. -/
def compose (text : List Char) : List Char :=
  if text.all fun c => c.toNat < 0xc0 then text else join (decompose text)

end AssetCache.Unicode
