import StoryLint.Files.Tree
import StoryLint.Json.Parser

/-!
# The host of the program

What a program finds where it runs: the files, and the stack that is left for reading a document.
-/

namespace StoryLint

/-- A host. `nesting` is the number of arrays and objects inside each other that the stack has room
for; there is always enough of it to report a fault of a text. -/
structure Host where
  files : FileSystem
  nesting : Nat
  reportRoom_le_nesting : Json.reportRoom ≤ nesting

namespace Host

/-- The room of a program that the command has just started. -/
def startRoom : Nat := 989

/-- The host of a program that the command has just started. -/
def ofFiles (files : FileSystem) : Host where
  files
  nesting := startRoom
  reportRoom_le_nesting := by decide

end Host

end StoryLint
