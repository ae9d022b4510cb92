/-!
# Ranges of code points

A character property is a table of closed ranges. `Range.covers` decides whether a character
lies in one of them, and every property of this library is such a table together with that
test.
-/

namespace StoryLint.Text

/-- The code points from `first` to `last`, both included. -/
structure Range where
  first : Nat
  last : Nat
deriving DecidableEq, Repr

namespace Range

/-- Whether the character lies in the range. -/
def contains (range : Range) (c : Char) : Bool :=
  range.first ≤ c.toNat && c.toNat ≤ range.last

/-- Whether the character lies in one of the ranges of a table. -/
def covers (table : List Range) (c : Char) : Bool :=
  table.any (·.contains c)

/-- A table from pairs of bounds. -/
def table (bounds : List (Nat × Nat)) : List Range :=
  bounds.map fun (first, last) => ⟨first, last⟩

end Range

end StoryLint.Text
