import StoryLint.Number.Binary64

/-!
# The shortest decimal of a floating-point number

A number is written with the fewest digits that read back as the same number, and among the
decimals of that length with the one nearest to it. `shortest` finds the digits in exact
arithmetic; `NumberFormat` says how they are laid out.
-/

namespace StoryLint.Number

/-- The decimal `digits * 10 ^ exponent`. -/
structure Decimal where
  digits : Nat
  exponent : Int
deriving DecidableEq, Repr

namespace Decimal

/-- The dyadic number that the decimal reads back as. -/
def read (d : Decimal) : Dyadic :=
  let (num, den) := Binary64.decimalQuotient d.digits d.exponent
  nearest num den

end Decimal

/-- The position of the decimal point of a positive quotient: the least `k` with
`num / den < 10 ^ k`. -/
def pointOf (num den : Nat) : Int :=
  if den ≤ num then decimalLength (num / den)
  else 1 - (decimalLength ((den + num - 1) / num - 1) : Int)

/-- The decimal with `count` digits nearest to `x` of those two neighbours of `x` that read back
as `x`; a tie goes to the even last digit. -/
def candidate? (x : Dyadic) (count : Nat) : Option Decimal :=
  let (num, den) := x.quotient
  let exponent := pointOf num den - count
  let (n, d) :=
    if 0 ≤ exponent then (num, den * Nat.pow 10 exponent.toNat)
    else (num * Nat.pow 10 (-exponent).toNat, den)
  let below : Decimal := ⟨n / d, exponent⟩
  let above : Decimal := ⟨n / d + 1, exponent⟩
  let twice := 2 * (n % d)
  let (first, second) :=
    if twice < d || (twice = d && n / d % 2 = 0) then (below, above) else (above, below)
  if first.read = x then some first else if second.read = x then some second else none

/-- The shortest decimal that reads back as the positive number `x`. Seventeen digits always do. -/
def shortest (x : Dyadic) : Decimal :=
  ((List.range 17).findSome? fun i => candidate? x (i + 1)).getD ⟨0, 0⟩

/-- How a number is laid out: which exponents are written positionally, how many digits an
exponent has at least, and the words for the values that have no digits. -/
structure NumberFormat where
  leastPositional : Int
  greatestPositional : Int
  exponentWidth : Nat
  infinity : String
  notANumber : String

/-- The layout of numbers in this program: positional from `0.0001` to below `1e16`, with at
least one digit after the point; two digits or more in an exponent, which has a sign. -/
def plainFormat : NumberFormat :=
  { leastPositional := -4
    greatestPositional := 15
    exponentWidth := 2
    infinity := "inf"
    notANumber := "nan" }

namespace NumberFormat

/-- Digits with the point after `point` places; `point` may be negative or beyond the digits. -/
def positional (digits : List Char) (point : Int) : List Char :=
  if point ≤ 0 then ['0', '.'] ++ List.replicate (-point).toNat '0' ++ digits
  else
    let places := point.toNat
    let whole := digits.take places ++ List.replicate (places - digits.length) '0'
    let fraction := digits.drop places
    whole ++ ['.'] ++ (if fraction.isEmpty then ['0'] else fraction)

/-- Digits with the point after the first of them, and an exponent. -/
def scientific (format : NumberFormat) (digits : List Char) (exponent : Int) : List Char :=
  let size := Nat.toDigits 10 exponent.natAbs
  let fraction := digits.drop 1
  digits.take 1 ++ (if fraction.isEmpty then [] else '.' :: fraction) ++
    ['e', if exponent < 0 then '-' else '+'] ++
    List.replicate (format.exponentWidth - size.length) '0' ++ size

/-- The text of a magnitude. -/
def magnitude (format : NumberFormat) (x : Dyadic) : List Char :=
  if x.mantissa = 0 then positional ['0'] 1
  else
    let decimal := shortest x
    let digits := Nat.toDigits 10 decimal.digits
    let point : Int := digits.length + decimal.exponent
    let significant := (digits.reverse.dropWhile (· = '0')).reverse
    if format.leastPositional ≤ point - 1 ∧ point - 1 ≤ format.greatestPositional then
      positional significant point
    else format.scientific significant (point - 1)

/-- The text of a number. -/
def text (format : NumberFormat) : Binary64 → String
  | .finite negative x =>
      String.ofList ((if negative then ['-'] else []) ++ format.magnitude x)
  | .infinite negative => (if negative then "-" else "") ++ format.infinity
  | .notANumber => format.notANumber

end NumberFormat

end StoryLint.Number
