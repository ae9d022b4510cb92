import StoryLint.Proofs.Diagnostic.Labels

/-!
# Underlined lines

A label that lies in its file is drawn as rows of text: the lines that hold its characters, each
with a row of marks below. `Label.Spans` says which lines these are, `Label.DrawsLine` how one of
them is drawn, and `Label.Draws` how they follow each other. `Diagnostic.draws_label` is the main
result: the rows of every label that lies in its file are drawn in this way in the text of a
diagnostic without colour.

The columns of a snippet are computed in different ways for its first and its last line.
`Snippet.Represents` ties both to the text of the file; from there on only offsets are compared.
-/

namespace StoryLint

/-! ## How a label is drawn -/

namespace Label

/-- The lines that a label spans: in ascending order those that hold a character of its range, or
the line of its place if the range is empty. -/
structure Spans (label : Label) (text : List Char) (lines : List Nat) : Prop where
  ascending : lines.Pairwise (· < ·)
  mem_iff : ∀ index, index ∈ lines ↔ ∃ offset : Nat, label.start ≤ offset ∧
    (offset < label.stop ∨ offset = label.start) ∧ lineOf text offset = index

/-- How a line is drawn for a label: its number and what it shows, and in the row below `width`
marks from `column` on, which stand under those characters that lie in the range of the label. The
message is behind the marks. -/
inductive DrawsLine (label : Label) (text : List Char) (gutter : Nat) (message : String)
    (index : Nat) : List String → Prop where
  | intro {before shown : List Char} {column width : Nat}
      (shows : ShowsLine text index before shown)
      (marked_iff : label.start < label.stop → ∀ place < shown.length,
        (column ≤ place ∧ place < column + width ↔
          label.start ≤ (before.length + place : Nat) ∧
            ((before.length + place : Nat) : Int) < label.stop))
      (pointed : label.start = label.stop →
        ((before.length + column : Nat) : Int) = label.start ∧ width = 1) :
      DrawsLine label text gutter message index
        [padLeft gutter (toString (index + 1)) ++ " | " ++ String.ofList shown,
         spaces gutter ++ " | " ++ spaces column ++
           String.ofList (List.replicate width label.style.mark) ++ remark message]

/-- How the lines of a label are drawn: up to two of them all, and of more than two the first and
the last one with one row of dots between. The message of the label is behind the last marks. -/
inductive Draws (label : Label) (text : List Char) (gutter : Nat) :
    List Nat → List String → Prop where
  | one {line : Nat} {rows : List String}
      (draws : label.DrawsLine text gutter label.message line rows) :
      Draws label text gutter [line] rows
  | two {first last : Nat} {above below : List String}
      (draws_first : label.DrawsLine text gutter "" first above)
      (draws_last : label.DrawsLine text gutter label.message last below) :
      Draws label text gutter [first, last] (above ++ below)
  | elided {first last : Nat} {between : List Nat} {above below : List String}
      (between_ne : between ≠ [])
      (draws_first : label.DrawsLine text gutter "" first above)
      (draws_last : label.DrawsLine text gutter label.message last below) :
      Draws label text gutter (first :: (between ++ [last]))
        (above ++ (padLeft gutter "..." ++ " |") :: below)

end Label

/-! ## Snippets -/

/-- A line of a snippet shows a line of a text. The columns of the snippet are counted from where
its first line and its last one start. -/
structure Snippet.Places (snippet : Snippet) (text : List Char) (index : Nat)
    (before shown : List Char) : Prop where
  shows : ShowsLine text (snippet.firstLine + index) before shown
  startColumn_eq : index = 0 → (snippet.startColumn : Int) = snippet.label.start - before.length
  endColumn_eq : index + 1 = snippet.lines.length →
    snippet.endColumn = snippet.label.stop - before.length

/-- A snippet lies on the text of its file as its label does: it has the lines from that of the
start to that of the last character, or the line of the start alone. -/
structure Snippet.Represents (snippet : Snippet) (text : List Char) : Prop where
  firstLine_eq : lineOf text snippet.label.start.toNat = snippet.firstLine
  lastLine_eq : lineOf text (max snippet.label.start (snippet.label.stop - 1)).toNat =
    snippet.lastLine
  length_lines : snippet.lines.length = snippet.lastLine + 1 - snippet.firstLine
  places : ∀ (index : Nat) line, snippet.lines[index]? = some line →
    ∃ before shown, line = String.ofList shown ∧ snippet.Places text index before shown

namespace Snippet

variable {files : StoryFiles} {file : SourceFile} {label : Label} {snippet : Snippet}

/-- A label that lies in its file has a snippet that lies there like it. -/
theorem exists_resolve?_represents (label : Label)
    (hfile : files.codeMap.file? label.fileId = some file) (hstart : 0 ≤ label.start)
    (hstop : label.start ≤ label.stop) (hlength : label.stop ≤ file.text.length) :
    ∃ snippet, resolve? files label = some snippet ∧ snippet.label = label ∧
      snippet.Represents file.text.toList := by
  obtain ⟨snippet, hresolve, hlabel, -, -⟩ :=
    exists_resolve?_eq label hfile hstart hstop hlength
  have hresolved := resolvedFrom_of_resolve? hresolve
  obtain ⟨hcount, hshown⟩ := lines_of_resolve? hfile hresolve
  obtain ⟨firstStart, _, hfirstRange, hstartColumn⟩ := hresolved.startColumn_eq
  obtain ⟨lastStart, _, hlastRange, hendColumn⟩ := hresolved.endColumn_eq
  subst hlabel
  have hfirstLine := lineOf_of_lineIndex? hfile hstart (by omega) hresolved.firstLine_eq
  have hlastLine := lineOf_of_lineIndex? hfile (by omega) (by omega) hresolved.lastLine_eq
  refine ⟨snippet, hresolve, rfl, hfirstLine, hlastLine, hcount, fun index line hline => ?_⟩
  obtain ⟨before, shown, stop, rfl, hshows, hrange⟩ := hshown index line hline
  rw [← StoryFiles.lineRange?_of_file? hfile] at hrange
  refine ⟨before, shown, rfl, ⟨hshows, fun hzero => ?_, fun hend => ?_⟩⟩
  · subst hzero
    obtain ⟨rfl, -⟩ := Prod.mk.inj (Option.some.inj (hrange.symm.trans hfirstRange))
    have := hshows.le_of_le_lineOf _ (Nat.le_of_eq hfirstLine.symm)
    omega
  · have hindex : ((snippet.firstLine + index : Nat) : Int) = snippet.lastLine := by omega
    rw [hindex] at hrange
    obtain ⟨rfl, -⟩ := Prod.mk.inj (Option.some.inj (hrange.symm.trans hlastRange))
    exact hendColumn

/-! ## Marks -/

namespace Represents

variable {text before shown : List Char} {index : Nat}

/-- A snippet of a text has its lines in order. -/
theorem firstLine_le_lastLine (h : snippet.Represents text) :
    snippet.firstLine ≤ snippet.lastLine := by
  rw [← h.firstLine_eq, ← h.lastLine_eq]
  exact lineOf_mono text (by omega)

/-- The marks below the first line start where the range starts. Behind the first line the range
has started before the line, and the marks start with it. -/
theorem column_shownLine (h : snippet.Represents text) (hstart : 0 ≤ snippet.label.start)
    (hplaces : snippet.Places text index before shown) (line : String) :
    ((snippet.shownLine line index).column : Int) = snippet.label.start - before.length ∨
      (snippet.shownLine line index).column = 0 ∧ 0 < index ∧
        snippet.label.start < before.length := by
  have hfirstLine := h.firstLine_eq
  rcases Nat.eq_zero_or_pos index with rfl | hpos
  · exact .inl (hplaces.startColumn_eq rfl)
  · have := hplaces.shows.lt_of_lineOf_lt snippet.label.start.toNat (by omega)
    exact .inr ⟨if_neg (Nat.ne_of_gt hpos), hpos, by omega⟩

/-- The marks below the last line end where the range ends. In front of the last line the range
goes on behind the line, and the marks end with it. There is one mark at least. -/
theorem exists_width_shownLine (h : snippet.Represents text) (hstart : 0 ≤ snippet.label.start)
    (hplaces : snippet.Places text index before shown) (hindex : index < snippet.lines.length) :
    ∃ finish : Int, ((snippet.shownLine (String.ofList shown) index).width : Int) =
        max (finish - (snippet.shownLine (String.ofList shown) index).column) 1 ∧
      (finish = snippet.label.stop - before.length ∧ index + 1 = snippet.lines.length ∧
          before.length ≤ max snippet.label.start (snippet.label.stop - 1) ∨
        finish = shown.length ∧ index + 1 < snippet.lines.length ∧
          before.length + shown.length < max snippet.label.start (snippet.label.stop - 1)) := by
  have hcount := h.length_lines
  have hlastLine := h.lastLine_eq
  refine ⟨_, Int.toNat_of_nonneg (by omega), ?_⟩
  rcases Nat.eq_or_lt_of_le (Nat.succ_le_of_lt hindex) with hend | hinner
  · have := hplaces.shows.le_of_le_lineOf
      (max snippet.label.start (snippet.label.stop - 1)).toNat (by omega)
    exact .inl ⟨by rw [if_pos hend, hplaces.endColumn_eq hend], hend, by omega⟩
  · have := hplaces.shows.lt_of_lt_lineOf
      (max snippet.label.start (snippet.label.stop - 1)).toNat (by omega) (Nat.le_refl _)
    exact .inr ⟨by rw [if_neg (Nat.ne_of_lt hinner), String.length_ofList], hinner, by omega⟩

/-- The marks below a line stand under the characters of the range that the line shows. -/
theorem marked_iff (h : snippet.Represents text) (hstart : 0 ≤ snippet.label.start)
    (hplaces : snippet.Places text index before shown) (hindex : index < snippet.lines.length)
    (hrange : snippet.label.start < snippet.label.stop) {place : Nat}
    (hplace : place < shown.length) :
    (snippet.shownLine (String.ofList shown) index).column ≤ place ∧
        place < (snippet.shownLine (String.ofList shown) index).column +
          (snippet.shownLine (String.ofList shown) index).width ↔
      snippet.label.start ≤ (before.length + place : Nat) ∧
        ((before.length + place : Nat) : Int) < snippet.label.stop := by
  have hcolumn := h.column_shownLine hstart hplaces (String.ofList shown)
  obtain ⟨finish, hwidth, hfinish⟩ := h.exists_width_shownLine hstart hplaces hindex
  rcases hcolumn with hcolumn | ⟨hcolumn, -, hstarted⟩ <;>
    rcases hfinish with ⟨rfl, -, hends⟩ | ⟨rfl, -, hends⟩ <;> omega

/-- An empty range has one mark, at its place. -/
theorem pointed (h : snippet.Represents text) (hstart : 0 ≤ snippet.label.start)
    (hplaces : snippet.Places text index before shown) (hindex : index < snippet.lines.length)
    (hempty : snippet.label.start = snippet.label.stop) :
    ((before.length + (snippet.shownLine (String.ofList shown) index).column : Nat) : Int) =
        snippet.label.start ∧
      (snippet.shownLine (String.ofList shown) index).width = 1 := by
  have hline : snippet.firstLine = snippet.lastLine := by
    rw [← h.firstLine_eq, ← h.lastLine_eq, Int.max_eq_left (by omega)]
  have hcount := h.length_lines
  have hcolumn := h.column_shownLine hstart hplaces (String.ofList shown)
  obtain ⟨finish, hwidth, hfinish⟩ := h.exists_width_shownLine hstart hplaces hindex
  omega

/-- The lines of a snippet are those that its label spans. -/
theorem spans (h : snippet.Represents text) (hstart : 0 ≤ snippet.label.start)
    (hstop : snippet.label.start ≤ snippet.label.stop) :
    snippet.label.Spans text (List.range' snippet.firstLine snippet.lines.length) where
  ascending := List.pairwise_lt_range'
  mem_iff := by
    intro index
    have hcount := h.length_lines
    have hfirstLine := h.firstLine_eq
    have hlastLine := h.lastLine_eq
    rw [List.mem_range'_1]
    constructor
    · rintro ⟨hle, hlt⟩
      rcases Nat.eq_or_lt_of_le hle with rfl | hlater
      · exact ⟨snippet.label.start.toNat, by omega, by omega, hfirstLine⟩
      · -- A later line is held by its own start, which lies in the range.
        obtain ⟨before, shown, -, ⟨hshows, -, -⟩⟩ := h.places (index - snippet.firstLine) _
          (List.getElem?_eq_getElem (by omega))
        rw [Nat.add_sub_cancel' hle] at hshows
        have hbehind := hshows.lt_of_lineOf_lt snippet.label.start.toNat (by omega)
        have hwithin := hshows.le_of_le_lineOf
          (max snippet.label.start (snippet.label.stop - 1)).toNat (by omega)
        exact ⟨before.length, by omega, by omega, hshows.lineOf_length⟩
    · rintro ⟨offset, hle, hoffset, rfl⟩
      have hfirst := lineOf_mono text (show snippet.label.start.toNat ≤ offset by omega)
      have hlast := lineOf_mono text
        (show offset ≤ (max snippet.label.start (snippet.label.stop - 1)).toNat by omega)
      omega

end Represents

end Snippet

/-! ## Rows -/

namespace Row

/-- The text of a row without colour. -/
def text (gutter : Nat) (row : Row) : String :=
  Span.renderAll false (row.spans gutter .error)

/-- Without colour, the severity makes no difference. -/
theorem renderAll_spans (gutter : Nat) (severity : Severity) (row : Row) :
    Span.renderAll false (row.spans gutter severity) = row.text gutter := by
  cases row <;> simp [text, spans, Span.styled]

/-- The three pieces of text around the bar of a row that goes on. -/
theorem append_bar (rest : String) : " " ++ ("|" ++ (" " ++ rest)) = " | " ++ rest := by
  rw [← String.append_assoc, ← String.append_assoc]
  rfl

/-- A bar is written behind the gutter. -/
@[simp] theorem text_bar (gutter : Nat) : bar.text gutter = spaces gutter ++ " |" := by
  simp [text, spans, barSpan, Span.plain, Span.styled, String.append_assoc]

/-- A line of the text is written behind its number and a bar. -/
@[simp] theorem text_source (gutter number : Nat) (line : String) :
    (source number line).text gutter = padLeft gutter (toString number) ++ " | " ++ line := by
  simp [text, spans, barSpan, Span.plain, Span.styled, append_bar, String.append_assoc]

/-- Lines that are left out are written as dots and a bar. -/
@[simp] theorem text_ellipsis (gutter : Nat) :
    ellipsis.text gutter = padLeft gutter "..." ++ " |" := by
  simp [text, spans, barSpan, Span.plain, Span.styled, String.append_assoc]

/-- Marks are written under the columns they mark, with the message behind them. -/
@[simp] theorem text_marker (gutter column width : Nat) (style : LabelStyle) (message : String) :
    (marker style column width message).text gutter =
      spaces gutter ++ " | " ++ spaces column ++ String.ofList (List.replicate width style.mark) ++
        remark message := by
  unfold remark
  split <;>
    simp [text, spans, barSpan, markText, Span.plain, Span.styled, append_bar,
      String.append_assoc, *]

end Row

namespace Snippet

variable {snippet : Snippet} {first last : String} {between : List String}

/-- The two rows of a line of a snippet. -/
def linePair (snippet : Snippet) (text : String) (index : Nat) (message : String) : List Row :=
  let line := snippet.shownLine text index
  [.source line.number line.text,
   .marker snippet.label.style line.column line.width message]

/-- The lines that are shown are those of the snippet that are not left out. -/
theorem shown_eq : snippet.shown = (snippet.lines.zipIdx.filter fun line =>
    snippet.shows line.2).map fun line => snippet.shownLine line.1 line.2 :=
  rfl

/-- A snippet of one line shows it. -/
theorem lineRows_of_single (h : snippet.lines = [first]) :
    snippet.lineRows = snippet.linePair first 0 snippet.label.message := by
  have hshown : snippet.shown = [snippet.shownLine first 0] := by
    simp [shown, shows, h]
  simp [lineRows, hshown, linePair]

/-- A snippet of two lines shows both. -/
theorem lineRows_of_pair (h : snippet.lines = [first, last]) :
    snippet.lineRows =
      snippet.linePair first 0 "" ++ snippet.linePair last 1 snippet.label.message := by
  have hshown : snippet.shown = [snippet.shownLine first 0, snippet.shownLine last 1] := by
    simp [shown, shows, h, List.zipIdx_cons]
  simp [lineRows, hshown, linePair, h, List.zipIdx_cons]

/-- A snippet of more lines shows the first and the last one, with an ellipsis between. -/
theorem lineRows_of_long (h : snippet.lines = first :: (between ++ [last]))
    (hbetween : between ≠ []) :
    snippet.lineRows = snippet.linePair first 0 "" ++ .ellipsis ::
      snippet.linePair last (between.length + 1) snippet.label.message := by
  have hlength : 0 < between.length := List.length_pos_iff.2 hbetween
  have hfirst : snippet.shows 0 = true := by simp [shows]
  have hlast : snippet.shows (between.length + 1) = true := by simp [shows, h]
  have hhidden : (between.zipIdx 1).filter (fun line => snippet.shows line.2) = [] := by
    rw [List.filter_eq_nil_iff]
    intro line hmem
    obtain ⟨hle, hlt, -⟩ := List.mem_zipIdx hmem
    have hfirst : line.2 ≠ 0 := by omega
    have hlast : line.2 ≠ between.length + 1 := by omega
    simp [shows, h, hbetween, hfirst, hlast]
  have hshown : snippet.shown =
      [snippet.shownLine first 0, snippet.shownLine last (between.length + 1)] := by
    simp only [shown_eq, h, List.zipIdx_cons, List.zipIdx_append, List.zipIdx_nil,
      List.filter_cons, List.filter_append, List.filter_nil, Nat.zero_add, hfirst, hhidden,
      Nat.add_comm 1, hlast, if_true, List.nil_append, List.map_cons, List.map_nil]
  simp [lineRows, hshown, linePair, h, List.zipIdx_cons, hlength]

namespace Represents

variable {text : List Char} {line : String} {index : Nat}

/-- The two rows of a line draw it. -/
theorem drawsLine (h : snippet.Represents text) (hstart : 0 ≤ snippet.label.start)
    (hline : snippet.lines[index]? = some line) (gutter : Nat) (message : String) :
    snippet.label.DrawsLine text gutter message (snippet.firstLine + index)
      ((snippet.linePair line index message).map (Row.text gutter)) := by
  have hindex : index < snippet.lines.length := (List.getElem?_eq_some_iff.1 hline).1
  obtain ⟨before, shown, rfl, hplaces⟩ := h.places index line hline
  simp only [linePair, List.map_cons, List.map_nil, Row.text_source, Row.text_marker]
  exact .intro hplaces.shows (fun hrange place => h.marked_iff hstart hplaces hindex hrange)
    (h.pointed hstart hplaces hindex)

/-- The rows of a snippet draw its label. -/
theorem draws (h : snippet.Represents text) (hstart : 0 ≤ snippet.label.start) (gutter : Nat) :
    snippet.label.Draws text gutter (List.range' snippet.firstLine snippet.lines.length)
      (snippet.lineRows.map (Row.text gutter)) := by
  have hpositive : 0 < snippet.lines.length := by
    have := h.firstLine_le_lastLine
    have := h.length_lines
    omega
  obtain ⟨first, rest, hlines⟩ := List.exists_cons_of_length_pos hpositive
  -- One line, two lines, or lines in between that are left out.
  rcases List.eq_nil_or_concat rest with rfl | ⟨between, last, rfl⟩
  · rw [lineRows_of_single hlines, hlines]
    exact .one (h.drawsLine hstart (show snippet.lines[0]? = some first by rw [hlines]; rfl)
      gutter snippet.label.message)
  · rw [List.concat_eq_append] at hlines
    have hfirst := h.drawsLine hstart
      (show snippet.lines[0]? = some first by rw [hlines]; rfl) gutter ""
    have hlast := h.drawsLine hstart
      (show snippet.lines[between.length + 1]? = some last by simp [hlines]) gutter
      snippet.label.message
    by_cases hbetween : between = []
    · subst hbetween
      rw [lineRows_of_pair hlines, hlines, List.map_append]
      exact .two hfirst hlast
    · have hrange : List.range' snippet.firstLine snippet.lines.length = snippet.firstLine ::
          (List.range' (snippet.firstLine + 1) between.length ++
            [snippet.firstLine + (between.length + 1)]) := by
        have hlength : snippet.lines.length = between.length + 1 + 1 := by simp [hlines]
        rw [hlength, List.range'_succ, List.range'_1_concat, Nat.add_assoc snippet.firstLine,
          Nat.add_comm 1]
      rw [lineRows_of_long hlines hbetween, hrange, List.map_append, List.map_cons,
        Row.text_ellipsis]
      exact .elided (by simpa using hbetween) hfirst hlast

end Represents

end Snippet

namespace Diagnostic

variable {files : StoryFiles} {file : SourceFile} {label : Label} {d : Diagnostic}

/-- Rows of a block are lines of the text of the diagnostic. -/
theorem exists_render_eq_lines {rows : List Row} (h : rows <:+: d.block files) :
    ∃ above below : List String, d.render false files = String.join
      ((above ++ rows.map (Row.text (Snippet.gutterWidth (d.snippets files))) ++ below).map
        (· ++ "\n")) := by
  have hline : (d.page files false).rowLine =
      Row.text (Snippet.gutterWidth (d.snippets files)) := by
    funext row
    rw [← Page.renderAll_spans]
    exact Row.renderAll_spans _ _ row
  rw [← hline]
  exact exists_render_eq h false

/-- Every label that lies in its file is drawn in the text of a diagnostic without colour: the rows
of its snippet are lines of the text, one after the other, and they show the lines that the label
spans, with marks under the characters of its range. -/
theorem draws_label (hlabel : label ∈ d.labels)
    (hfile : files.codeMap.file? label.fileId = some file) (hstart : 0 ≤ label.start)
    (hstop : label.start ≤ label.stop) (hlength : label.stop ≤ file.text.length) :
    ∃ snippet lines rows above below,
      Snippet.resolve? files label = some snippet ∧
      snippet.lineRows.map (Row.text (Snippet.gutterWidth (d.snippets files))) = rows ∧
      label.Spans file.text.toList lines ∧
      label.Draws file.text.toList (Snippet.gutterWidth (d.snippets files)) lines rows ∧
      d.render false files = String.join ((above ++ rows ++ below).map (· ++ "\n")) := by
  obtain ⟨snippet, hresolve, rfl, hrepresents⟩ :=
    Snippet.exists_resolve?_represents label hfile hstart hstop hlength
  have hsnippet : snippet ∈ d.snippets files :=
    List.mem_filterMap.2 ⟨snippet.label, hlabel, hresolve⟩
  obtain ⟨above, below, hrender⟩ := exists_render_eq_lines (lineRows_infix_block hsnippet)
  exact ⟨snippet, _, _, above, below, hresolve, rfl, hrepresents.spans hstart hstop,
    hrepresents.draws hstart _, hrender⟩

/-- A file with line ends of both kinds and an empty line. -/
def mixedFiles : StoryFiles :=
  { codeMap := { files := [⟨"a", "ab\r\n\ncd\nef"⟩], names_nodup := by decide } }

/-- A label from the second character of a file up to the end of its third line. -/
def mixedLabel : Label :=
  { style := .primary, fileId := 0, start := 1, stop := 8, message := "here" }

/-- A diagnostic with the label. -/
def mixedDiagnostic : Diagnostic :=
  { severity := .error, message := "m", code := "c", labels := [mixedLabel] }

/-- The empty line is left out, and the line ends are not shown. -/
theorem draws_label_mixed :
    mixedLabel ∈ mixedDiagnostic.labels ∧
      mixedFiles.codeMap.file? mixedLabel.fileId = some ⟨"a", "ab\r\n\ncd\nef"⟩ ∧
      0 ≤ mixedLabel.start ∧ mixedLabel.start ≤ mixedLabel.stop ∧
      mixedLabel.stop ≤ "ab\r\n\ncd\nef".length ∧
      ∃ lines above below, mixedLabel.Spans "ab\r\n\ncd\nef".toList lines ∧
        mixedDiagnostic.render false mixedFiles = String.join
          ((above ++ [" 1 | ab", "   |  ^", "... |", " 3 | cd", "   | ^^^ here"] ++ below).map
            (· ++ "\n")) := by
  have hlabel : mixedLabel ∈ mixedDiagnostic.labels := List.mem_singleton_self _
  have hfile : mixedFiles.codeMap.file? mixedLabel.fileId =
      some ⟨"a", "ab\r\n\ncd\nef"⟩ := rfl
  have hsnippet : Snippet.resolve? mixedFiles mixedLabel = some
      { label := mixedLabel, fileName := "a", firstLine := 0, lastLine := 2, startColumn := 1
        endColumn := 3, lines := ["ab", "", "cd"] } := by
    decide +kernel
  have hgutter : Snippet.gutterWidth (mixedDiagnostic.snippets mixedFiles) = 2 := by
    decide +kernel
  obtain ⟨snippet, lines, rows, above, below, hresolve, hrows, hspans, -, hrender⟩ :=
    draws_label hlabel hfile (by decide) (by decide) (by decide)
  obtain rfl := Option.some.inj (hsnippet.symm.trans hresolve)
  rw [hgutter] at hrows
  refine ⟨hlabel, hfile, by decide, by decide, by decide, lines, above, below, hspans, ?_⟩
  rw [hrender, ← hrows]
  rfl

end Diagnostic

end StoryLint
