import AssetCache.Text.Utf8
import AssetCache.Unicode.Bidi
import AssetCache.Unicode.DomainMapping
import AssetCache.Unicode.Joining
import AssetCache.Unicode.Mark
import AssetCache.Unicode.Normalization
import AssetCache.Url.Punycode

/-!
# Domain names

A domain name may be written in any script and in any case.  `Domain.toAscii?` gives the one form in
which it is used: characters are mapped and composed, and each label with other characters than
ASCII is written in its ASCII form, after `xn--`.  Labels must be of a kind that can be shown: marks
stand after a base, joiners where scripts have a use for them, and labels of a name that is written
in both directions each keep to one.
-/

namespace AssetCache.Url.Domain

open Unicode

/-! ## Labels -/

/-- A text cut at each dot. -/
def labels : List Char → List (List Char)
  | [] => [[]]
  | c :: rest =>
    if c = '.' then [] :: labels rest
    else
      match labels rest with
      | label :: more => (c :: label) :: more
      | [] => [[c]]

def joinLabels (labels : List (List Char)) : List Char := ['.'].intercalate labels

/-- What stands before a label in ASCII form. -/
def asciiMark : List Char := ['x', 'n', '-', '-']

def isAscii (text : List Char) : Bool := text.all fun c => c.toNat < 0x80

/-! ## Joiners -/

/-- The character that keeps letters apart. -/
def nonJoiner : Char := Char.ofNat 0x200c

def joiner : Char := Char.ofNat 0x200d

/-- Whether a text, in reverse, ends in a sign that silences a vowel. -/
def endsInVirama : List Char → Bool
  | c :: _ => combiningClass c = viramaClass
  | [] => false

/-- Whether a text, in reverse, ends in a letter that would join the next one. -/
def endsJoining (before : List Char) : Bool :=
  match before.dropWhile fun c => transparent.contains c.toNat with
  | c :: _ => leftJoining.contains c.toNat || dualJoining.contains c.toNat
  | [] => false

/-- Whether a text begins with a letter that would join the one before it. -/
def beginsJoining (after : List Char) : Bool :=
  match after.dropWhile fun c => transparent.contains c.toNat with
  | c :: _ => rightJoining.contains c.toNat || dualJoining.contains c.toNat
  | [] => false

/-- Whether joiners stand only where they have a use.  `before` holds in reverse what is before the
text. -/
def joinersFit : (before : List Char) → List Char → Bool
  | _, [] => true
  | before, c :: rest =>
    (if c = nonJoiner then endsInVirama before || (endsJoining before && beginsJoining rest)
      else if c = joiner then endsInVirama before
      else true) &&
      joinersFit (c :: before) rest

/-! ## Directions -/

/-- Classes of a text from right to left. -/
def rightClasses : List BidiClass := [.rightToLeft, .arabicLetter, .arabicNumber]

/-- Whether a character belongs to a text from right to left. -/
def isRightToLeft (c : Char) : Bool :=
  rightClasses.contains (bidiClass c)

/-- Classes that may stand in either direction. -/
def sharedClasses : List BidiClass :=
  [.europeanNumber, .europeanSeparator, .commonSeparator, .europeanTerminator, .otherNeutral,
    .boundaryNeutral, .nonspacingMark]

/-- The class in which a label ends, its nonspacing marks apart. -/
def lastClass? (classes : List BidiClass) : Option BidiClass :=
  (classes.reverse.dropWhile (· = .nonspacingMark)).head?

/-- Whether a label from right to left keeps to its direction. -/
def keepsRight (classes : List BidiClass) : Bool :=
  (classes.all fun k => (rightClasses ++ sharedClasses).contains k) &&
  ((lastClass? classes).any fun k => (.europeanNumber :: rightClasses).contains k) &&
  !(classes.contains .europeanNumber && classes.contains .arabicNumber)

/-- Whether a label from left to right keeps to its direction. -/
def keepsLeft (classes : List BidiClass) : Bool :=
  (classes.all fun k => (.leftToRight :: sharedClasses).contains k) &&
  ((lastClass? classes).any fun k => [BidiClass.leftToRight, .europeanNumber].contains k)

/-- Whether a label of a name with characters of both directions keeps to its own. -/
def keepsDirection (label : List Char) : Bool :=
  let classes := label.map bidiClass
  match classes with
  | [] => true
  | .rightToLeft :: _ => keepsRight classes
  | .arabicLetter :: _ => keepsRight classes
  | .leftToRight :: _ => keepsLeft classes
  | _ => false

/-! ## Names -/

/-- Whether a label can be shown: it does not begin with a mark, its characters stay as they are,
and its joiners fit. -/
def isValidLabel (label : List Char) : Bool :=
  !(label.head?.any isMark) && label.all staysInDomain && joinersFit [] label

/-- A label with an ASCII form may have no more characters than this. -/
def longestWritten : Nat := 1000

/-- An ASCII form may have no more characters than this. -/
def longestRead : Nat := 2000

/-- The label that is meant; no answer where it is none. -/
def meant? (label : List Char) : Option (List Char) :=
  if asciiMark.isPrefixOf label then
    let code := label.drop 4
    if !isAscii code || longestRead < code.length then none
    else
      (Punycode.decode? code).bind fun u =>
        if isAscii u || asciiMark.isPrefixOf u || compose u != u || !isValidLabel u then none
        else some u
  else if isValidLabel label then some label else none

/-- The form in which a label is used. -/
def asciiForm? (label : List Char) : Option (List Char) :=
  if isAscii label then some label
  else if longestWritten < label.length then none
  else some (asciiMark ++ Punycode.encode label)

/-- Characters that no domain name holds, besides controls. -/
def forbidden : List Char :=
  [' ', '#', '%', '/', ':', '<', '>', '?', '@', '[', '\\', ']', '^', '|']

/-- Whether a character may not be in a domain name. -/
def isForbidden (c : Char) : Bool := c.toNat < 0x20 || c.toNat = 0x7f || forbidden.contains c

/-- The form in which a name is used, given its octets. -/
def toAscii? (octets : Bytes) : Option (List Char) :=
  (Utf8.decode? octets).bind fun text =>
    (text.mapM mapInDomain?).bind fun mapped =>
      let text := compose mapped.flatten
      if text.any isForbidden then none
      else
        let written := labels text
        (written.mapM meant?).bind fun meant =>
          if (meant.any fun label => label.any isRightToLeft) && !meant.all keepsDirection then none
          else (written.mapM asciiForm?).map joinLabels

end AssetCache.Url.Domain
