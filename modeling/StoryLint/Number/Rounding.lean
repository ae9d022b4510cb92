/-!
# Rounding to 53 significant bits

Arithmetic in double precision is exact arithmetic followed by a rounding to the nearest number
with 53 significant bits, a half going to the even neighbour. `nearest` rounds a quotient of
naturals, `Rat.toDouble` a rational.
-/

namespace StoryLint.Number

/-- The quotient rounded to the nearest natural number, a half going to the even neighbour. -/
def roundQuotient (num den : Nat) : Nat :=
  let floor := num / den
  let twice := 2 * (num % den)
  if twice < den then floor
  else if den < twice then floor + 1
  else if floor % 2 = 0 then floor else floor + 1

/-- A dyadic number `mantissa * 2 ^ exponent`. -/
structure Dyadic where
  mantissa : Nat
  exponent : Int
deriving DecidableEq, Repr

/-- The least exponent of a double. -/
def leastExponent : Int := -1074

/-- The exponent that leaves 53 bits of the positive quotient before the point, and not less
than a double can have. -/
def exponentOf (num den : Nat) : Int :=
  let scale : Int := (num.log2 : Int) - den.log2
  let below := if 0 ≤ scale then num < den * Nat.pow 2 scale.toNat
    else num * Nat.pow 2 (-scale).toNat < den
  max (if below then scale - 53 else scale - 52) leastExponent

/-- The dyadic number of 53 bits nearest to a quotient. Rounding up to 54 bits moves the
exponent instead, so that the mantissa stays below `2 ^ 53`. -/
def nearest (num den : Nat) : Dyadic :=
  if num = 0 then ⟨0, leastExponent⟩
  else
    let exponent := exponentOf num den
    let mantissa :=
      if 0 ≤ exponent then roundQuotient num (den * Nat.pow 2 exponent.toNat)
      else roundQuotient (num * Nat.pow 2 (-exponent).toNat) den
    if mantissa = Nat.pow 2 53 then ⟨Nat.pow 2 52, exponent + 1⟩ else ⟨mantissa, exponent⟩

namespace Dyadic

/-- Numerator and denominator of a dyadic number. -/
def quotient (x : Dyadic) : Nat × Nat :=
  if 0 ≤ x.exponent then (x.mantissa * Nat.pow 2 x.exponent.toNat, 1)
  else (x.mantissa, Nat.pow 2 (-x.exponent).toNat)

/-- A dyadic number as a rational. -/
def toRat (x : Dyadic) : Rat :=
  mkRat x.quotient.1 x.quotient.2

end Dyadic

/-- The double nearest to a rational that is not negative. -/
def toDouble (q : Rat) : Rat :=
  (nearest q.num.toNat q.den).toRat

end StoryLint.Number
