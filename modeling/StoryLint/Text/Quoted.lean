import StoryLint.Text.Printable

/-!
# Quoted text

Messages quote names and values so that blanks, quotes and control characters stay visible. A
text stands between single quotes, or between double quotes if it holds a single quote and no
double quote. The quote in use and the backslash are escaped, newline, carriage return and tab
have escapes of their own, and every other character that is not printable is written by its
code point in hexadecimal.
-/

namespace StoryLint.Text

/-- The hexadecimal digits of a number, padded with zeros to `width` places. -/
def hexadecimal (width n : Nat) : List Char :=
  let digits := Nat.toDigits 16 n
  List.replicate (width - digits.length) '0' ++ digits

namespace Quoted

/-- The quote that a text stands between. -/
def mark (s : List Char) : Char :=
  if s.contains '\'' && !s.contains '"' then '"' else '\''

/-- An escape by code point: two, four or eight digits, as few as hold the number. -/
def codePoint (c : Char) : List Char :=
  if c.toNat < 0x100 then ['\\', 'x'] ++ hexadecimal 2 c.toNat
  else if c.toNat < 0x10000 then ['\\', 'u'] ++ hexadecimal 4 c.toNat
  else ['\\', 'U'] ++ hexadecimal 8 c.toNat

/-- One character inside a text that stands between `quote`. -/
def escape (quote c : Char) : List Char :=
  if c = quote || c = '\\' then ['\\', c]
  else if c = '\n' then ['\\', 'n']
  else if c = '\r' then ['\\', 'r']
  else if c = '\t' then ['\\', 't']
  else if isPrintable c then [c]
  else codePoint c

end Quoted

/-- A text between quotes. -/
def quoted (s : String) : String :=
  let quote := Quoted.mark s.toList
  String.ofList (quote :: (s.toList.flatMap (Quoted.escape quote)) ++ [quote])

end StoryLint.Text
