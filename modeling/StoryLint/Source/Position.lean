/-!
# Positions in a text

A text is a sequence of code points and an offset counts them. `Position.ofOffset text offset` is
the line and column of an offset; lines end at newline characters only, and both numbers start at
one. Positions are ordered by line, then by column.
-/

namespace StoryLint

/-- A line and a column. -/
structure Position where
  line : Int := 1
  column : Int := 1
deriving DecidableEq, Repr

namespace Position

/-- Lines decide, columns decide within a line. -/
instance : LT Position where
  lt a b := a.line < b.line ∨ a.line = b.line ∧ a.column < b.column

/-- Which of two positions comes first can be computed. -/
instance (a b : Position) : Decidable (a < b) :=
  inferInstanceAs (Decidable (_ ∨ _ ∧ _))

/-- A position is at most another if it comes before it or is the same. -/
instance : LE Position where
  le a b := a < b ∨ a = b

/-- Whether a position is at most another can be computed. -/
instance (a b : Position) : Decidable (a ≤ b) :=
  inferInstanceAs (Decidable (_ ∨ _))

/-- The position of an offset: one line for every newline before it, and one column for every
character since the last of them. -/
def ofOffset (text : List Char) (offset : Nat) : Position :=
  let before := text.take offset
  { line := before.count '\n' + 1
    column := (before.reverse.takeWhile (· ≠ '\n')).length + 1 }

/-- The text `line:column`. -/
def text (p : Position) : String :=
  toString p.line ++ ":" ++ toString p.column

end Position

end StoryLint
