import StoryLint.Proofs.Diagnostic.Location

/-!
# The lines of a diagnostic as text

A diagnostic is laid out as a list of rows, and a row as pieces of text with their styles. `Page`
spells out the lines that come of it, one definition for each kind of line, without the pieces.
`Diagnostic.render_eq_page` is the main result: these are the lines of a diagnostic, with colour
and without.
-/

namespace StoryLint

/-- What stands behind the marks of a label with a message. -/
def remark (message : String) : String :=
  if message.isEmpty then "" else " " ++ message

/-- How the lines of a diagnostic are written: in colour or not, behind a gutter of some width, and
for a severity. -/
structure Page where
  colored : Bool
  gutter : Nat
  severity : Severity

namespace Page

/-- A text in a style, where colour is on. -/
def ink (page : Page) (style : Style) (text : String) : String :=
  if page.colored then style.paint text else text

/-- The headline: the severity with the code, then the message. -/
def headline (page : Page) (d : Diagnostic) : String :=
  page.ink (.boldIn d.severity.color) (d.severity.codeName ++ "[" ++ d.code ++ "]") ++
    page.ink .bold (": " ++ d.message)

/-- The line that says where a snippet is: an arrow for a primary label and colons for a secondary
one, then file, line and column. -/
def locationLine (page : Page) (style : LabelStyle) (fileName : String) (line column : Nat) :
    String :=
  spaces (page.gutter - 1) ++
    page.ink (.boldIn .blue) (if style = .primary then "-->" else ":::") ++ " " ++
    fileName ++ ":" ++ toString line ++ ":" ++ toString column

/-- A line with nothing but the bar behind the gutter. -/
def barLine (page : Page) : String :=
  spaces page.gutter ++ " " ++ page.ink (.boldIn .blue) "|"

/-- A line of a file, with its number in the gutter. -/
def sourceLine (page : Page) (number : Nat) (text : String) : String :=
  page.ink (.boldIn .blue) (padLeft page.gutter (toString number)) ++ " " ++
    page.ink (.boldIn .blue) "|" ++ " " ++ text

/-- The dots for lines that are left out. -/
def dotsLine (page : Page) : String :=
  padLeft page.gutter "..." ++ " " ++ page.ink (.boldIn .blue) "|"

/-- The marks below a line, `width` of them from `column` on, and a message behind them. Primary
marks are carets in the colour of the severity, secondary ones are dashes. -/
def markLine (page : Page) (style : LabelStyle) (column width : Nat) (message : String) : String :=
  spaces page.gutter ++ " " ++ page.ink (.boldIn .blue) "|" ++ " " ++ spaces column ++
    page.ink (.boldIn (if style = .primary then page.severity.color else .blue))
      (String.ofList (List.replicate width (if style = .primary then '^' else '-')) ++
        remark message)

/-- A note below the gutter. -/
def noteLine (page : Page) (note : String) : String :=
  spaces page.gutter ++ " = " ++ page.ink (.boldIn .cyan) "note" ++ ": " ++ note

/-- The line of a row. -/
def rowLine (page : Page) : Row → String
  | .location style fileName line column => page.locationLine style fileName line column
  | .bar => page.barLine
  | .source number text => page.sourceLine number text
  | .ellipsis => page.dotsLine
  | .marker style column width message => page.markLine style column width message

variable {page : Page}

/-- A piece with a style is written in it. -/
theorem render_styled (style : Style) (text : String) :
    (Span.styled style text).render page.colored = page.ink style text := by
  rw [ink]
  cases page.colored <;> rfl

/-- A piece without a style is written as it is. -/
theorem render_plain (text : String) : (Span.plain text).render page.colored = text := by
  cases page.colored <;> rfl

/-- The pieces of a row are its line. -/
theorem renderAll_spans (page : Page) (row : Row) :
    Span.renderAll page.colored (row.spans page.gutter page.severity) = page.rowLine row := by
  cases row with
  | location style fileName line column =>
      have harrow : style.arrow = if style = .primary then "-->" else ":::" := by
        cases style <;> rfl
      simp [Row.spans, rowLine, locationLine, render_styled, render_plain, harrow,
        String.append_assoc]
  | bar => simp [Row.spans, Row.barSpan, rowLine, barLine, render_styled, render_plain]
  | source number text =>
      simp [Row.spans, Row.barSpan, rowLine, sourceLine, render_styled, render_plain,
        String.append_assoc]
  | ellipsis => simp [Row.spans, Row.barSpan, rowLine, dotsLine, render_styled, render_plain]
  | marker style column width message =>
      have hcolor : Row.markColor page.severity style =
          if style = .primary then page.severity.color else .blue := by
        cases style <;> rfl
      have hmark : style.mark = if style = .primary then '^' else '-' := by
        cases style <;> rfl
      have htext : Row.markText style width message =
          String.ofList (List.replicate width (if style = .primary then '^' else '-')) ++
            remark message := by
        rw [← hmark, Row.markText, remark]
        split <;> simp [String.append_assoc]
      simp [Row.spans, Row.barSpan, rowLine, markLine, render_styled, render_plain, hcolor, htext,
        String.append_assoc]

/-- The pieces of the headline are its line. -/
theorem renderAll_headline (page : Page) (d : Diagnostic) :
    Span.renderAll page.colored d.headline = page.headline d := by
  simp [Diagnostic.headline, headline, render_styled]

/-- The pieces of a note are its line. -/
theorem renderAll_noteSpans (page : Page) (note : String) :
    Span.renderAll page.colored (Diagnostic.noteSpans page.gutter note) = page.noteLine note := by
  simp [Diagnostic.noteSpans, noteLine, render_styled, render_plain, String.append_assoc]

end Page

namespace Diagnostic

/-- The page of a diagnostic: its gutter holds the line numbers of all snippets. -/
def page (d : Diagnostic) (files : StoryFiles) (colored : Bool) : Page :=
  { colored, gutter := Snippet.gutterWidth (d.snippets files), severity := d.severity }

/-- The text of a diagnostic is its headline, the rows of its block and its notes, a line each, and
an empty line. -/
theorem render_eq_page (d : Diagnostic) (files : StoryFiles) (colored : Bool) :
    d.render colored files = String.join
      (((d.page files colored).headline d :: (d.block files).map (d.page files colored).rowLine ++
        d.notes.map (d.page files colored).noteLine ++ [""]).map (· ++ "\n")) := by
  -- A gutter without line numbers is one column wide, as the layout has it without snippets.
  have hgutter : (if (d.snippets files).isEmpty then 1
      else Snippet.gutterWidth (d.snippets files)) = (d.page files colored).gutter := by
    cases h : d.snippets files <;> simp [page, h, Snippet.gutterWidth]
  have hheadline : Span.renderAll colored d.headline = (d.page files colored).headline d :=
    (d.page files colored).renderAll_headline d
  have hrow : ∀ row : Row, Span.renderAll colored
      (row.spans (Snippet.gutterWidth (d.snippets files)) d.severity) =
        (d.page files colored).rowLine row :=
    (d.page files colored).renderAll_spans
  have hnote : ∀ note, Span.renderAll colored (noteSpans (d.page files colored).gutter note) =
      (d.page files colored).noteLine note :=
    (d.page files colored).renderAll_noteSpans
  simp only [render, lines, hgutter, List.cons_append, List.map_cons, List.map_append,
    List.map_map, Function.comp_def, hheadline, hrow, hnote, String.join_cons, String.join_append,
    List.map_nil, String.join_nil, String.append_assoc, String.append_empty, String.empty_append]

end Diagnostic

end StoryLint
