/-!
# Tables of characters

The tables of this folder are texts.  They hold numbers in hexadecimal, each followed by a mark; a
space or the end of a line ends a row.  A set of characters has rows like `41-5a` and `5f`; a table
of values has rows like these:

* `c5:61,30a`: the values of one character;
* `250=2af:0`: each character of a range has the same values;
* `41-5a:61`: the characters of a range have ascending values, one each;
* `100/12e:101`: so has every second character of a range.
-/

namespace AssetCache.Unicode

/-! ## Texts -/

/-- The value of a lower-case hexadecimal digit, none for a mark. -/
def hexValue? (c : Char) : Option Nat :=
  if '0' ≤ c && c ≤ '9' then some (c.toNat - '0'.toNat)
  else if 'a' ≤ c && c ≤ 'f' then some (c.toNat - 'a'.toNat + 10)
  else none

/-- Read numbers, each with the mark after it.  `number` is what was read of one, and `done` holds
in reverse those before. -/
def readMarked : (number : Nat) → (done : List (Nat × Char)) → List Char → List (Nat × Char)
  | number, done, [] => ((number, ' ') :: done).reverse
  | number, done, c :: rest =>
    match hexValue? c with
    | some d => readMarked (16 * number + d) done rest
    | none => readMarked 0 ((number, c) :: done) rest

/-- The numbers of a text that is given by its lines, each with the mark after it. -/
def marked (lines : List String) : List (Nat × Char) :=
  lines.flatMap fun line => readMarked 0 [] line.toList

/-! ## Sets -/

/-- Ranges of character numbers, both ends included. -/
abbrev RangeSet := List (Nat × Nat)

/-- The ranges that marked numbers stand for. -/
def RangeSet.ofMarked : List (Nat × Char) → RangeSet
  | (a, '-') :: (b, _) :: rest => (a, b) :: ofMarked rest
  | (a, _) :: rest => (a, a) :: ofMarked rest
  | [] => []

/-- Read a set. -/
def RangeSet.ofLines (lines : List String) : RangeSet := .ofMarked (marked lines)

/-- Whether a number lies in one of the ranges. -/
def RangeSet.contains (s : RangeSet) (n : Nat) : Bool := s.any fun r => r.1 ≤ n && n ≤ r.2

/-! ## Values -/

/-- A row of a table of values: every `step`-th character from `first` to `last` has the values
`values`, raised by its distance from `first` if they ascend. -/
structure Row where
  (first last step : Nat)
  (ascends : Bool)
  (values : List Nat)

/-- A table of values. -/
abbrev Table := List Row

/-- The values up to the end of a row, and what follows. -/
def readValues : (done : List Nat) → List (Nat × Char) → List Nat × List (Nat × Char)
  | done, (v, ',') :: rest => readValues (v :: done) rest
  | done, (v, _) :: rest => ((v :: done).reverse, rest)
  | done, [] => (done.reverse, [])

/-- The rows that marked numbers stand for, in at most `steps` rows. -/
def Table.ofMarked : (steps : Nat) → List (Nat × Char) → Table
  | 0, _ => []
  | _, [] => []
  | steps + 1, (a, ':') :: rest =>
    let found := readValues [] rest
    ⟨a, a, 1, false, found.1⟩ :: ofMarked steps found.2
  | steps + 1, (a, mark) :: (b, _) :: rest =>
    let found := readValues [] rest
    ⟨a, b, if mark = '/' then 2 else 1, mark ≠ '=', found.1⟩ :: ofMarked steps found.2
  | _, [_] => []

/-- Read a table. -/
def Table.ofLines (lines : List String) : Table :=
  let rows := marked lines
  .ofMarked rows.length rows

/-- Whether a row is about a character. -/
def Row.covers (r : Row) (n : Nat) : Bool :=
  r.first ≤ n && n ≤ r.last && (n - r.first) % r.step == 0

/-- The values of a character. -/
def Table.find? (t : Table) (n : Nat) : Option (List Nat) :=
  (List.find? (fun r => r.covers n) t).map fun r =>
    if r.ascends then r.values.map (· + (n - r.first)) else r.values

end AssetCache.Unicode
