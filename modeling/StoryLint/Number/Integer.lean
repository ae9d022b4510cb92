import StoryLint.Number.Binary64

/-!
# Integers in decimal

An integer is read from decimal digits and written in them only up to a number of digits, since
either takes time that grows with its square. Longer integers are an error of their own.
-/

namespace StoryLint.Number

/-- The most digits of an integer that is read or written. -/
def mostDigits : Nat := 4300

/-- An integer has more digits than are read, and then their number is known, or than are
written. -/
inductive TooManyDigits where
  | read (count : Nat)
  | written
deriving DecidableEq, Repr

/-- The error text. -/
def TooManyDigits.message (e : TooManyDigits) : String :=
  "Exceeds the limit (" ++ toString mostDigits ++ " digits) for integer string conversion" ++
    (match e with
      | read count => ": value has " ++ toString count ++ " digits"
      | written => "") ++
    "; use sys.set_int_max_str_digits() to increase the limit"

/-- An integer in decimal. -/
def integerText (n : Int) : Except TooManyDigits String :=
  if mostDigits < decimalLength n.natAbs then .error .written else .ok (toString n)

end StoryLint.Number
