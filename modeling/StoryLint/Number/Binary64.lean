import StoryLint.Number.Rounding

/-!
# Binary floating-point numbers

`Binary64` holds the numbers of a 64-bit floating-point format as exact data: a sign and a dyadic
magnitude, the two infinities, and the value that is no number. `ofDecimal` reads a decimal with
correct rounding; a magnitude that the format cannot hold becomes an infinity.
-/

namespace StoryLint.Number

/-- A 64-bit binary floating-point number. -/
inductive Binary64 where
  | finite (negative : Bool) (magnitude : Dyadic)
  | infinite (negative : Bool)
  | notANumber
deriving DecidableEq, Repr

/-- The number of decimal digits of a natural number; zero has one. -/
def decimalLength (n : Nat) : Nat :=
  (Nat.toDigits 10 n).length

namespace Binary64

/-- Whether the number is zero, of either sign. -/
def isZero : Binary64 → Bool
  | .finite _ magnitude => magnitude.mantissa = 0
  | _ => false

/-- The quotient of naturals that a decimal `digits * 10 ^ exponent` denotes. -/
def decimalQuotient (digits : Nat) (exponent : Int) : Nat × Nat :=
  if 0 ≤ exponent then (digits * Nat.pow 10 exponent.toNat, 1)
  else (digits, Nat.pow 10 (-exponent).toNat)

/-- The number nearest to the decimal `± digits * 10 ^ exponent`. A decimal above `10 ^ 310` or
below `10 ^ -330` is decided by its length alone, which keeps huge exponents cheap. -/
def ofDecimal (negative : Bool) (digits : Nat) (exponent : Int) : Binary64 :=
  let point : Int := decimalLength digits + exponent
  if digits = 0 || point < -330 then .finite negative (nearest 0 1)
  else if 310 < point then .infinite negative
  else
    let (num, den) := decimalQuotient digits exponent
    let magnitude := nearest num den
    if 971 < magnitude.exponent then .infinite negative else .finite negative magnitude

end Binary64

end StoryLint.Number
