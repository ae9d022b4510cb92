import StoryLint.Text.Range

/-!
# Blanks and trimming

A blank is a character that separates words: the ASCII blanks, the four information separators,
and the space characters of Unicode. Zero-width characters are no blanks. `trim` takes the
blanks off both ends of a text and nothing else.
-/

namespace StoryLint.Text

/-- The blank characters. -/
def blankRanges : List Range := Range.table
  [(0x9, 0xD), (0x1C, 0x20), (0x85, 0x85), (0xA0, 0xA0), (0x1680, 0x1680), (0x2000, 0x200A),
   (0x2028, 0x2029), (0x202F, 0x202F), (0x205F, 0x205F), (0x3000, 0x3000)]

/-- Whether a character is a blank. -/
def isBlank (c : Char) : Bool :=
  Range.covers blankRanges c

/-- Whether a character ends a line as it is shown: carriage return or newline. -/
def isLineEnd (c : Char) : Bool :=
  c = '\r' || c = '\n'

/-- Drop the longest tail whose characters all satisfy `p`. -/
def dropTail (p : Char → Bool) (s : List Char) : List Char :=
  (s.reverse.dropWhile p).reverse

/-- A text without the blanks at its two ends. -/
def trim (s : List Char) : List Char :=
  dropTail isBlank (s.dropWhile isBlank)

/-- A line without the carriage returns and newlines that end it. -/
def trimLineEnd (s : List Char) : List Char :=
  dropTail isLineEnd s

end StoryLint.Text
