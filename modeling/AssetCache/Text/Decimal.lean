/-!
# Decimal numbers of 64 bits

Numbers from 0 to 2 ^ 64 - 1, written as ASCII digits with an optional `+` in front.
-/

namespace AssetCache.Decimal

/-- The largest number of 64 bits. -/
def largest : Nat := UInt64.size - 1

/-- Why a text is not such a number. -/
inductive Error where
  /-- A character that is no digit, or no digit at all. -/
  | invalidDigit
  /-- A number above the largest. -/
  | tooLarge
  deriving DecidableEq, Repr

/-- The wording of a reading error. -/
def Error.message : Error → String
  | .invalidDigit => "invalid digit found in string"
  | .tooLarge => "number too large to fit in target type"

/-- The value of an ASCII digit. -/
def digit? (c : Char) : Option Nat :=
  if '0' ≤ c && c ≤ '9' then some (c.toNat - '0'.toNat) else none

/-- Read the digits that follow a number.  The first character that is no digit, or that takes the
number past the largest, decides. -/
def readDigits : (sofar : Nat) → (text : List Char) → Except Error Nat
  | sofar, [] => .ok sofar
  | sofar, c :: rest =>
    match digit? c with
    | none => .error .invalidDigit
    | some d =>
      if largest < 10 * sofar + d then .error .tooLarge else readDigits (10 * sofar + d) rest

def read (text : List Char) : Except Error Nat :=
  let digits := match text with
    | '+' :: rest => rest
    | _ => text
  if digits.isEmpty then .error .invalidDigit else readDigits 0 digits

end AssetCache.Decimal
