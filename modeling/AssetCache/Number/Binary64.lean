/-!
# Floating-point numbers of 64 bits

A positive number is rounded to 53 bits, to the nearest one and, of two that are equally near, to
the even one.  `ofRatio` rounds a quotient of natural numbers; nothing here is large or small enough
to leave the range of exponents.

Results: 1. rounding is off by half a unit at most (`two_mul_roundDiv_le`, `le_two_mul_roundDiv`).
-/

namespace AssetCache

/-- A number: a significand times two to the power of an exponent.  A positive one has a significand
of 53 bits. -/
structure Binary64 where
  significand : Nat
  exponent : Int
  deriving DecidableEq, Repr

namespace Binary64

def zero : Binary64 := ⟨0, 0⟩

/-- The quotient of two numbers, rounded to the nearest and, halfway, to the even one. -/
def roundDiv (num den : Nat) : Nat :=
  let q := num / den
  let r := num % den
  if den < 2 * r || (2 * r = den && q % 2 = 1) then q + 1 else q

theorem two_mul_roundDiv_le (num den : Nat) (h : 0 < den) :
    2 * (den * roundDiv num den) ≤ 2 * num + den := by
  have hdiv := Nat.div_add_mod num den
  have hlt := Nat.mod_lt num h
  unfold roundDiv
  simp only
  split
  next hup =>
    have : den ≤ 2 * (num % den) := by
      simp only [Bool.or_eq_true, Bool.and_eq_true, decide_eq_true_eq] at hup; omega
    rw [Nat.mul_add]; omega
  next => omega

theorem le_two_mul_roundDiv (num den : Nat) (h : 0 < den) :
    2 * num ≤ 2 * (den * roundDiv num den) + den := by
  have hdiv := Nat.div_add_mod num den
  have hlt := Nat.mod_lt num h
  unfold roundDiv
  simp only
  split
  next => rw [Nat.mul_add]; omega
  next hdown =>
    have : 2 * (num % den) ≤ den := by
      simp only [Bool.or_eq_true, Bool.and_eq_true, decide_eq_true_eq, not_or] at hdown; omega
    omega

/-- A significand that was rounded up out of its 53 bits has one bit less to spare. -/
def normalize (significand : Nat) (exponent : Int) : Binary64 :=
  if significand = 1 <<< 53 then ⟨1 <<< 52, exponent + 1⟩ else ⟨significand, exponent⟩

/-- The number nearest to `num / den` times two to the power of `scale`, of two positive numbers. -/
def ofScaled (num den : Nat) (scale : Int) : Binary64 :=
  let guess : Int := num.log2 - den.log2 - 52
  let atLeast (e : Int) : Bool := den <<< (52 + e).toNat ≤ num <<< (-(52 + e)).toNat
  let e := if atLeast guess then guess else guess - 1
  normalize (roundDiv (num <<< (-e).toNat) (den <<< e.toNat)) (e + scale)

/-- The number nearest to a quotient. -/
def ofRatio (num den : Nat) : Binary64 :=
  if num = 0 || den = 0 then zero else ofScaled num den 0

/-- The number nearest to a natural number. -/
def ofNat (n : Nat) : Binary64 := ofRatio n 1

/-- The number nearest to the quotient of two. -/
def div (a b : Binary64) : Binary64 :=
  if a.significand = 0 || b.significand = 0 then zero
  else ofScaled a.significand b.significand (a.exponent - b.exponent)

/-- The bits of a number: the exponent, and the significand without its highest bit. -/
def toBits (b : Binary64) : Nat :=
  if b.significand = 0 then 0
  else (b.exponent + 1075).toNat <<< 52 + (b.significand - 1 <<< 52)

end Binary64

end AssetCache
