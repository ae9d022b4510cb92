import StoryLint.Diagnostic.Snippet

/-!
# Layout of diagnostics

A diagnostic is laid out as a headline, a block of rows for its snippets, and its notes:

    warning[dead-link]: Dead link to nonexistent passage: Celler
     --> story.twee:4:1
       |
     4 | [[Celler]]
       | ^^^^^^^^^^
       |
       = note: Found passage with similar name: "Cellar"

`Diagnostic.block` is the list of rows as data; `Row.spans` writes one of them, with the gutter
that holds the line numbers on its left.
-/

namespace StoryLint

/-- A row of a block of snippets. -/
inductive Row where
  | location (style : LabelStyle) (fileName : String) (line column : Nat)
  | bar
  | source (number : Nat) (text : String)
  | ellipsis
  | marker (style : LabelStyle) (column width : Nat) (message : String)
deriving DecidableEq, Repr

/-- Text moved to the right end of a field. -/
def padLeft (width : Nat) (text : String) : String :=
  String.ofList (List.replicate (width - text.length) ' ') ++ text

/-- A run of spaces. -/
def spaces (width : Nat) : String :=
  String.ofList (List.replicate width ' ')

namespace Snippet

/-- The rows of the shown lines: each with its underline below, and an ellipsis where lines are
left out. The label's message stands behind the last underline. -/
def lineRows (snippet : Snippet) : List Row :=
  let shown := snippet.shown
  shown.zipIdx.flatMap fun (line, index) =>
    (if index = 1 && 2 < snippet.lines.length then [Row.ellipsis] else []) ++
    [Row.source line.number line.text,
     Row.marker snippet.label.style line.column line.width
       (if index + 1 = shown.length then snippet.label.message else "")]

/-- The row that says where a snippet is. -/
def locationRow (snippet : Snippet) : Row :=
  .location snippet.label.style snippet.fileName (snippet.firstLine + 1)
    (snippet.startColumn + 1)

/-- The rows of snippets. A location row is left out for a secondary snippet of the file that the
row above it belongs to. -/
def rows (current : Option String) : List Snippet → List Row
  | [] => []
  | snippet :: rest =>
      (if current ≠ some snippet.fileName ∨ snippet.label.style = .primary then
        [snippet.locationRow] else []) ++
      Row.bar :: snippet.lineRows ++ rows (some snippet.fileName) rest

/-- The width of the gutter: the digits of the greatest line number and a space. -/
def gutterWidth (snippets : List Snippet) : Nat :=
  (snippets.map fun s => (toString (s.lastLine + 1)).length).foldl max 0 + 1

end Snippet

namespace Row

/-- The bar between the gutter and the text. -/
def barSpan : Span :=
  .styled (.boldIn .blue) "|"

/-- The colour of an underline: primary labels have the colour of the severity. -/
def markColor (severity : Severity) : LabelStyle → Color
  | .primary => severity.color
  | .secondary => .blue

/-- The text of an underline, with the label's message behind it. -/
def markText (style : LabelStyle) (width : Nat) (message : String) : String :=
  let mark := String.ofList (List.replicate width style.mark)
  if message.isEmpty then mark else mark ++ " " ++ message

/-- The text of a row, with a gutter of the given width. -/
def spans (gutter : Nat) (severity : Severity) : Row → List Span
  | .location style fileName line column =>
      [.plain (spaces (gutter - 1)), .styled (.boldIn .blue) style.arrow,
       .plain (" " ++ fileName ++ ":" ++ toString line ++ ":" ++ toString column)]
  | .bar => [.plain (spaces gutter ++ " "), barSpan]
  | .source number text =>
      [.styled (.boldIn .blue) (padLeft gutter (toString number)), .plain " ", barSpan,
       .plain (" " ++ text)]
  | .ellipsis => [.plain (padLeft gutter "..." ++ " "), barSpan]
  | .marker style column width message =>
      [.plain (spaces gutter ++ " "), barSpan, .plain (" " ++ spaces column),
       .styled (.boldIn (markColor severity style)) (markText style width message)]

end Row

namespace Diagnostic

/-- The snippets of the labels that point at a range of a known file. -/
def snippets (d : Diagnostic) (files : StoryFiles) : List Snippet :=
  d.labels.filterMap (Snippet.resolve? files)

/-- The rows of the snippets, closed by a bar. -/
def block (d : Diagnostic) (files : StoryFiles) : List Row :=
  let snippets := d.snippets files
  if snippets.isEmpty then [] else Snippet.rows none snippets ++ [.bar]

/-- The headline: severity and code, then the message. -/
def headline (d : Diagnostic) : List Span :=
  [.styled (.boldIn d.severity.color) (d.severity.codeName ++ "[" ++ d.code ++ "]"),
   .styled .bold (": " ++ d.message)]

/-- A note below a gutter of the given width. -/
def noteSpans (gutter : Nat) (note : String) : List Span :=
  [.plain (spaces gutter ++ " = "), .styled (.boldIn .cyan) "note", .plain (": " ++ note)]

/-- The lines of a diagnostic. Without snippets the notes have a gutter of one space. -/
def lines (d : Diagnostic) (files : StoryFiles) : List (List Span) :=
  let snippets := d.snippets files
  let gutter := Snippet.gutterWidth snippets
  d.headline :: (d.block files).map (Row.spans gutter d.severity) ++
    d.notes.map (noteSpans (if snippets.isEmpty then 1 else gutter))

/-- The text of a diagnostic: its lines, and an empty line. -/
def render (colored : Bool) (d : Diagnostic) (files : StoryFiles) : String :=
  String.join ((d.lines files).map fun spans => Span.renderAll colored spans ++ "\n") ++ "\n"

end Diagnostic

end StoryLint
