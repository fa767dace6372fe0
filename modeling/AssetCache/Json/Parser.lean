import AssetCache.Json.Value

/-!
# Reading JSON

The grammar is the strict one: no comments, no trailing commas, no leading zeros, no raw controls in
strings, nothing after the value.  Only space, tab, line feed and carriage return may stand between
tokens.  Reading goes by a bound on the number of steps that the length of the text provides.
-/

namespace AssetCache.Json

/-- What may stand between tokens. -/
def isBlank (c : Char) : Bool := c = ' ' || c = '\t' || c = '\n' || c = '\r'

/-- The text after the blanks in front of it. -/
def skipBlanks (text : List Char) : List Char := text.dropWhile isBlank

/-! ## Numbers -/

def naturalOf (digits : List Char) : Nat :=
  digits.foldl (fun n c => 10 * n + (c.toNat - '0'.toNat)) 0

/-- The digits in front of a text, and what follows; there is at least one. -/
def digits? (text : List Char) : Option (List Char × List Char) :=
  match text.span Char.isDigit with
  | ([], _) => none
  | found => some found

/-- The digits in front of a text as an integer part: a zero begins nothing longer. -/
def whole? (text : List Char) : Option (List Char × List Char) :=
  match text with
  | '0' :: rest =>
    match rest with
    | c :: _ => if c.isDigit then none else some (['0'], rest)
    | [] => some (['0'], [])
  | _ => digits? text

/-- The fraction in front of a text, empty where there is none. -/
def fraction? (text : List Char) : Option (List Char × List Char) :=
  match text with
  | '.' :: rest => (digits? rest).map fun (digits, rest) => ('.' :: digits, rest)
  | _ => some ([], text)

/-- The exponent in front of a text, empty where there is none. -/
def exponent? (text : List Char) : Option (List Char × List Char) :=
  match text with
  | c :: rest =>
    if c = 'e' || c = 'E' then
      match rest with
      | s :: more =>
        if s = '+' || s = '-' then
          (digits? more).map fun (digits, rest) => (c :: s :: digits, rest)
        else (digits? rest).map fun (digits, rest) => (c :: digits, rest)
      | [] => none
    else some ([], text)
  | [] => some ([], [])

/-- The value of a number: an integer where only digits are written, but for `-0`. -/
def numberOf (negative : Bool) (whole fraction exponent : List Char) : Json :=
  if fraction.isEmpty && exponent.isEmpty && !(negative && naturalOf whole == 0) then
    .integer (if negative then -(naturalOf whole : Int) else naturalOf whole)
  else .decimal (String.ofList ((if negative then ['-'] else []) ++ whole ++ fraction ++ exponent))

/-- The number in front of a text. -/
def number? (text : List Char) : Option (Json × List Char) :=
  let (negative, text) := match text with
    | '-' :: rest => (true, rest)
    | _ => (false, text)
  (whole? text).bind fun (whole, text) =>
    (fraction? text).bind fun (fraction, text) =>
      (exponent? text).map fun (exponent, text) =>
        (numberOf negative whole fraction exponent, text)

/-! ## Strings -/

/-- The value of a hexadecimal digit. -/
def hexDigit? (c : Char) : Option Nat :=
  if '0' ≤ c && c ≤ '9' then some (c.toNat - '0'.toNat)
  else if 'a' ≤ c && c ≤ 'f' then some (c.toNat - 'a'.toNat + 10)
  else if 'A' ≤ c && c ≤ 'F' then some (c.toNat - 'A'.toNat + 10)
  else none

/-- The value of four hexadecimal digits. -/
def hex4? (a b c d : Char) : Option Nat :=
  (hexDigit? a).bind fun a => (hexDigit? b).bind fun b => (hexDigit? c).bind fun c =>
    (hexDigit? d).map fun d => ((a * 16 + b) * 16 + c) * 16 + d

/-- The character of a one-letter escape. -/
def shortEscape? (c : Char) : Option Char :=
  if c = '"' || c = '\\' || c = '/' then some c
  else if c = 'b' then some '\x08'
  else if c = 'f' then some '\x0c'
  else if c = 'n' then some '\n'
  else if c = 'r' then some '\r'
  else if c = 't' then some '\t'
  else none

/-- What a string holds at one place: a character, or half of a surrogate pair. -/
inductive Unit16 where
  | char (c : Char)
  | high (n : Nat)
  | low (n : Nat)

/-- What a sixteen-bit number stands for. -/
def Unit16.ofNat (n : Nat) : Unit16 :=
  if 0xd800 ≤ n && n < 0xdc00 then .high n
  else if 0xdc00 ≤ n && n < 0xe000 then .low n
  else .char (Char.ofNat n)

/-- Read up to the closing quote; `done` holds in reverse what was read. -/
def units? : (done : List Unit16) → List Char → Option (List Unit16 × List Char)
  | done, '"' :: rest => some (done.reverse, rest)
  | done, '\\' :: 'u' :: a :: b :: c :: d :: rest =>
    match hex4? a b c d with
    | some n => units? (.ofNat n :: done) rest
    | none => none
  | done, '\\' :: c :: rest =>
    match shortEscape? c with
    | some e => units? (.char e :: done) rest
    | none => none
  | done, c :: rest => if c = '\\' || c.toNat < 0x20 then none else units? (.char c :: done) rest
  | _, [] => none

/-- The text that units stand for, if each half of a pair has its other half. -/
def joinUnits : (done : List Char) → List Unit16 → Option (List Char)
  | done, [] => some done.reverse
  | done, .char c :: rest => joinUnits (c :: done) rest
  | done, .high h :: .low l :: rest =>
    joinUnits (Char.ofNat (0x10000 + (h - 0xd800) * 0x400 + (l - 0xdc00)) :: done) rest
  | _, .high _ :: _ => none
  | _, .low _ :: _ => none

/-- The string whose opening quote stands before a text. -/
def string? (text : List Char) : Option (Option String × List Char) :=
  (units? [] text).map fun (units, rest) => ((joinUnits [] units).map String.ofList, rest)

/-! ## Values -/

mutual

/-- The value in front of a text, in at most `steps` steps. -/
def value? : (steps : Nat) → List Char → Option (Json × List Char)
  | 0, _ => none
  | steps + 1, text =>
    match skipBlanks text with
    | 'n' :: 'u' :: 'l' :: 'l' :: rest => some (.null, rest)
    | 't' :: 'r' :: 'u' :: 'e' :: rest => some (.bool true, rest)
    | 'f' :: 'a' :: 'l' :: 's' :: 'e' :: rest => some (.bool false, rest)
    | '"' :: rest => (string? rest).map fun (s, rest) => (.string s, rest)
    | '[' :: rest =>
      match skipBlanks rest with
      | ']' :: rest => some (.array [], rest)
      | _ => (items? steps [] rest).map fun (items, rest) => (.array items, rest)
    | '{' :: rest =>
      match skipBlanks rest with
      | '}' :: rest => some (.object [], rest)
      | _ => (fields? steps [] rest).map fun (fields, rest) => (.object fields, rest)
    | text => number? text

/-- Items up to the closing bracket; `done` holds in reverse those before. -/
def items? : (steps : Nat) → (done : List Json) → List Char → Option (List Json × List Char)
  | 0, _, _ => none
  | steps + 1, done, text =>
    match value? steps text with
    | none => none
    | some (v, rest) =>
      match skipBlanks rest with
      | ',' :: rest => items? steps (v :: done) rest
      | ']' :: rest => some ((v :: done).reverse, rest)
      | _ => none

/-- Fields up to the closing brace; `done` holds in reverse those before. -/
def fields? : (steps : Nat) → (done : List (Option String × Json)) → List Char →
    Option (List (Option String × Json) × List Char)
  | 0, _, _ => none
  | steps + 1, done, text =>
    match skipBlanks text with
    | '"' :: rest =>
      match string? rest with
      | none => none
      | some (name, rest) =>
        match skipBlanks rest with
        | ':' :: rest =>
          match value? steps rest with
          | none => none
          | some (v, rest) =>
            match skipBlanks rest with
            | ',' :: rest => fields? steps ((name, v) :: done) rest
            | '}' :: rest => some (((name, v) :: done).reverse, rest)
            | _ => none
        | _ => none
    | _ => none

end

/-- The value that a text is, from end to end. -/
def parseChars? (text : List Char) : Option Json :=
  match value? (2 * text.length + 2) text with
  | some (v, rest) => if (skipBlanks rest).isEmpty then some v else none
  | none => none

/-- The value that a text is, from end to end. -/
def parse? (text : String) : Option Json := parseChars? text.toList

end AssetCache.Json
