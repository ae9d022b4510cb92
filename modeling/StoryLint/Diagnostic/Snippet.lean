import StoryLint.Diagnostic.Basic
import StoryLint.Source.StoryFiles
import StoryLint.Text.Blank

/-!
# Source snippets

A snippet is a label together with the lines of its file that it spans. `Snippet.resolve?` finds
them; a label of an unknown file, or with a negative start, has none. `Snippet.shown` chooses the
lines to show: all of them up to two, else the first and the last, each with the columns to
underline. An underline is at least one character wide.
-/

namespace StoryLint

/-- A label with the lines that it spans. Line indices and columns count from zero;
`startColumn` is a column of the first line, `endColumn` one of the last line and exclusive. -/
structure Snippet where
  label : Label
  fileName : String
  firstLine : Nat
  lastLine : Nat
  startColumn : Nat
  endColumn : Int
  lines : List String
deriving DecidableEq, Repr

/-- A line as it is shown: its number, its text, and the columns to underline. -/
structure ShownLine where
  number : Nat
  text : String
  column : Nat
  width : Nat
deriving DecidableEq, Repr

namespace Snippet

/-- The text of a line without the characters that end it. -/
def lineText? (files : StoryFiles) (id : Int) (source : List Char) (index : Nat) :
    Option String :=
  (files.lineRange? id index).map fun (start, stop) =>
    String.ofList (Text.trimLineEnd ((source.drop start).take (stop - start)))

/-- The snippet of a label. The last line is that of the last character of the range, and that of
the start if the range has no characters. -/
def resolve? (files : StoryFiles) (label : Label) : Option Snippet := do
  let source ← files.source? label.fileId
  let fileName ← files.name? label.fileId
  let firstLine ← files.lineIndex? label.fileId label.start
  let lastLine ← files.lineIndex? label.fileId (max label.start (label.stop - 1))
  let lines ← (List.range' firstLine (lastLine + 1 - firstLine)).mapM
    (lineText? files label.fileId source.toList)
  let (firstStart, _) ← files.lineRange? label.fileId firstLine
  let (lastStart, _) ← files.lineRange? label.fileId lastLine
  return {
    label, fileName, firstLine, lastLine, lines
    startColumn := (label.start - firstStart).toNat
    endColumn := label.stop - lastStart }

/-- Whether the line with an index within the snippet is shown. -/
def shows (snippet : Snippet) (index : Nat) : Bool :=
  snippet.lines.length ≤ 2 || index = 0 || index + 1 = snippet.lines.length

/-- The line with an index within the snippet. The underline runs from the start of the range on
the first line, and to its end on the last line. -/
def shownLine (snippet : Snippet) (text : String) (index : Nat) : ShownLine :=
  let column := if index = 0 then snippet.startColumn else 0
  let finish : Int :=
    if index + 1 = snippet.lines.length then snippet.endColumn else text.length
  { number := snippet.firstLine + index + 1
    text, column
    width := (max (finish - column) 1).toNat }

/-- The lines to show. -/
def shown (snippet : Snippet) : List ShownLine :=
  (snippet.lines.zipIdx.filter fun (_, index) => snippet.shows index).map
    fun (text, index) => snippet.shownLine text index

end Snippet

end StoryLint
