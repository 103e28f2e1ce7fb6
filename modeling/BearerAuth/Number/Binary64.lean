/-! Finite 64-bit floating-point numbers, held as a sign, a mantissa and a power of two.
Every operation rounds the exact quotient once to the nearest number, a tie to the even
mantissa, and has no result where that number would be infinite. -/

namespace BearerAuth.Number

/-- The number `± mantissa * 2 ^ exponent`. -/
structure Binary64 where
  negative : Bool
  mantissa : Nat
  exponent : Int
deriving DecidableEq, Repr

namespace Binary64

/-- The lowest power of two that a number can have. -/
def minExponent : Int := -1074

/-- The highest power of two that a number can have. -/
def maxExponent : Int := 971

/-- The integer nearest to a quotient, a tie to the even one. -/
def roundQuotient (num den : Nat) : Nat :=
  let q := num / den
  let twice := 2 * (num % den)
  if twice < den || (twice == den && q % 2 == 0) then q else q + 1

/-- A quotient divided by a power of two. -/
def scaled (num den : Nat) (exponent : Int) : Nat × Nat :=
  (num * Nat.pow 2 (-exponent).toNat, den * Nat.pow 2 exponent.toNat)

/-- The number nearest to a quotient. -/
def ofQuotient? (negative : Bool) (num den : Nat) : Option Binary64 :=
  let low : Int := max minExponent ((num.log2 : Int) - den.log2 - 53)
  let atLow := scaled num den low
  let exponent := if atLow.1 / atLow.2 < 0x20000000000000 then low else low + 1
  let parts := scaled num den exponent
  let mantissa := roundQuotient parts.1 parts.2
  let result : Binary64 :=
    if mantissa = 0 then ⟨negative, 0, minExponent⟩
    else if mantissa = 0x20000000000000 then ⟨negative, 0x10000000000000, exponent + 1⟩
    else ⟨negative, mantissa, exponent⟩
  if result.exponent ≤ maxExponent then some result else none

def ofNat? (n : Nat) : Option Binary64 := ofQuotient? false n 1

/-- The size of a number as an exact quotient. -/
def magnitude (x : Binary64) : Nat × Nat :=
  (x.mantissa * Nat.pow 2 x.exponent.toNat, Nat.pow 2 (-x.exponent).toNat)

def negate (x : Binary64) : Binary64 := { x with negative := !x.negative }

def times? (x y : Binary64) : Option Binary64 :=
  ofQuotient? (x.negative != y.negative) (x.magnitude.1 * y.magnitude.1)
    (x.magnitude.2 * y.magnitude.2)

def over? (x y : Binary64) : Option Binary64 :=
  ofQuotient? (x.negative != y.negative) (x.magnitude.1 * y.magnitude.2)
    (x.magnitude.2 * y.magnitude.1)

def tenTo? (exponent : Nat) : Option Binary64 := ofNat? (Nat.pow 10 exponent)

/-! ## Decimals -/

/-- The highest power of ten that is a finite number. -/
def maxTen : Nat := 308

/-- A number divided by a power of ten, in steps of at most the highest power of ten. -/
def overTens? (x : Binary64) (tens : Nat) : Option Binary64 :=
  if tens ≤ maxTen then do x.over? (← tenTo? tens)
  else if x.mantissa = 0 then some x
  else do overTens? (← x.over? (← tenTo? maxTen)) (tens - maxTen)
termination_by tens
decreasing_by simp_all only [maxTen, Nat.not_le]; omega

/-- The number read from `digits * 10 ^ tens`: the digits are rounded first and then scaled,
each step with a rounding of its own. -/
def ofDecimal? (negative : Bool) (digits : Nat) (tens : Int) : Option Binary64 := do
  let unscaled ← ofNat? digits
  let size ←
    if tens < 0 then unscaled.overTens? tens.natAbs
    else if tens.toNat ≤ maxTen then do unscaled.times? (← tenTo? tens.toNat)
    else if digits = 0 then some unscaled
    else none
  return { size with negative := negative }

/-- The natural number nearest to a number from 0 up to but not including `2 ^ 64`, halves
upwards. -/
def nearestNat? (x : Binary64) : Option Nat :=
  let (num, den) := x.magnitude
  if (x.negative && num != 0) || 0x10000000000000000 * den ≤ num then none
  else some ((2 * num + den) / (2 * den))

end Binary64

end BearerAuth.Number
