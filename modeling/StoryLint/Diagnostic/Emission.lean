import StoryLint.Diagnostic.Layout
import StoryLint.Source.CodeTables
import StoryLint.Terminal.Device

/-!
# Emitting diagnostics

`Diagnostic.emit` writes a diagnostic to a device, from the tables of a code map. Every label is
looked up in the tables step by step (`Cutout.locate`), and each way in which the steps may end
without a snippet is a `Stop` of its own. A label that points nowhere is left out; an index that is
not there stops the whole diagnostic. The lines are joined when they are all there, and then written
at once.
-/

namespace StoryLint

/-- An index that is not there: an entry of a table, or a line whose range is asked for. -/
inductive IndexFault where
  | noEntry (e : NoEntry)
  | noLine (index : Nat)
deriving DecidableEq, Repr

/-- Why looking up a label ended without a snippet. -/
inductive Stop where
  | unknownFile
  | noFirstLine
  | noLastLine
  | noLineRange (index : Nat)
  | fault (fault : IndexFault)
deriving DecidableEq, Repr

/-- The part of a file that a label cuts out. The columns are distances between offsets, of which
nothing is known yet. -/
structure Cutout where
  label : Label
  fileName : String
  firstLine : Nat
  lastLine : Nat
  startColumn : Int
  endColumn : Int
  lines : List String
deriving DecidableEq, Repr

namespace Cutout

variable {α : Type}

/-- Look something up in the tables. -/
def look : Except NoEntry α → Except Stop α
  | .ok a => .ok a
  | .error e => .error (.fault (.noEntry e))

/-- Stop if a look-up found nothing. -/
def need (stop : Stop) : Option α → Except Stop α
  | some a => .ok a
  | none => .error stop

/-- The text of a line, without the characters that end it. -/
def lineText (tables : CodeTables) (id : Int) (source : List Char) (index : Nat) :
    Except Stop String := do
  let range? ← look (tables.lineRange? id (index + 1))
  let (start, stop) ← need (.noLineRange index) range?
  return String.ofList (Text.trimLineEnd ((source.drop start).take (stop - start)))

/-- The start of a line that is taken to be there. -/
def lineStart (tables : CodeTables) (id : Int) (index : Nat) : Except Stop Nat := do
  let range? ← look (tables.lineRange? id (index + 1))
  let (start, _) ← need (.fault (.noLine index)) range?
  return start

/-- Look up a label: the file, the first and the last line, the texts of the lines, and the starts
of the first and the last line for the columns. -/
def locate (tables : CodeTables) (label : Label) : Except Stop Cutout := do
  let source? ← look (tables.source? label.fileId)
  let fileName? ← look (tables.name? label.fileId)
  let source ← need .unknownFile source?
  let fileName ← need .unknownFile fileName?
  let firstLine? ← look (tables.lineIndex? label.fileId label.start)
  let lastLine? ← look (tables.lineIndex? label.fileId (max label.start (label.stop - 1)))
  let firstLine ← need .noFirstLine firstLine?
  let lastLine ← need .noLastLine lastLine?
  let lines ← (List.range' firstLine (lastLine + 1 - firstLine)).mapM
    (lineText tables label.fileId source.toList)
  let firstStart ← lineStart tables label.fileId firstLine
  let lastStart ← lineStart tables label.fileId lastLine
  return {
    label, fileName, firstLine, lastLine, lines
    startColumn := label.start - firstStart
    endColumn := label.stop - lastStart }

/-- Look up labels one after the other. A label that points nowhere is left out. -/
def locateAll (tables : CodeTables) : List Label → Except IndexFault (List Cutout)
  | [] => .ok []
  | label :: rest =>
      match locate tables label with
      | .ok cutout => (cutout :: ·) <$> locateAll tables rest
      | .error (.fault fault) => .error fault
      | .error _ => locateAll tables rest

/-- The snippet of a cutout. -/
def toSnippet (cutout : Cutout) : Snippet where
  label := cutout.label
  fileName := cutout.fileName
  firstLine := cutout.firstLine
  lastLine := cutout.lastLine
  startColumn := cutout.startColumn.toNat
  endColumn := cutout.endColumn
  lines := cutout.lines

end Cutout

namespace Diagnostic

/-- The texts of the lines of a diagnostic with these snippets; the last one is empty. -/
def lineTexts (colored : Bool) (d : Diagnostic) (snippets : List Snippet) : List String :=
  let gutter := Snippet.gutterWidth snippets
  let rows := if snippets.isEmpty then [] else Snippet.rows none snippets ++ [.bar]
  let notes := d.notes.map (noteSpans (if snippets.isEmpty then 1 else gutter))
  let lines := d.headline :: rows.map (Row.spans gutter d.severity) ++ notes
  lines.map (Span.renderAll colored) ++ [""]

/-- Emit a diagnostic: look up its labels, then write its lines. -/
def emit {σ : Type} (device : Device σ) (colored : Bool) (tables : CodeTables) (d : Diagnostic)
    (s : σ) : Except IndexFault (Option StreamFault × σ) := do
  let cutouts ← Cutout.locateAll tables d.labels
  let texts := d.lineTexts colored (cutouts.map Cutout.toSnippet)
  return device.write ("\n".intercalate texts ++ "\n") s

end Diagnostic

end StoryLint
