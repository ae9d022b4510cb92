import StoryLint.Proofs.Diagnostic.Page
import StoryLint.Proofs.Diagnostic.ShownLine

/-!
# Labels that a diagnostic shows

A label that lies in its file is shown by lines of the text of the diagnostic: from the line where
its range starts, underlined from the column of the start, to the line of the last character, with
the message of the label behind the last underline (`Label.ShownBy`). `Diagnostic.showsLabel` is the
main result: no such label is left out of the text of a diagnostic, whatever other labels there
are.
-/

namespace StoryLint

/-- Lines that show a label: the first line of its range with an underline of the label's style
from the start of the range on, and the last line of its range with the message of the label
behind the underline. An underline has one mark at least. -/
structure Label.ShownBy (files : StoryFiles) (page : Page) (label : Label) (lines : List String) :
    Prop where
  first : ∃ (file : SourceFile) (index column width : Nat) (before shown : List Char)
      (message : String) (rest : List String),
    files.codeMap.file? label.fileId = some file ∧
      Position.ofOffset file.text.toList label.start.toNat =
        { line := (index + 1 : Nat), column := (column + 1 : Nat) } ∧
      ShowsLine file.text.toList index before shown ∧ 0 < width ∧
      lines = page.sourceLine (index + 1) (String.ofList shown) ::
        page.markLine label.style column width message :: rest
  last : ∃ (file : SourceFile) (index column width : Nat) (before shown : List Char)
      (rest : List String),
    files.codeMap.file? label.fileId = some file ∧
      (Position.ofOffset file.text.toList (max label.start (label.stop - 1)).toNat).line =
        (index + 1 : Nat) ∧
      ShowsLine file.text.toList index before shown ∧ 0 < width ∧
      lines = rest ++ [page.sourceLine (index + 1) (String.ofList shown),
        page.markLine label.style column width label.message]

/-- The rows of a snippet start with its first line of the file, with marks from the start of the
label on, and end with its last one and the message of the label behind the marks. -/
structure Snippet.DrawnFrom (file : SourceFile) (snippet : Snippet) : Prop where
  first : ∃ (before shown : List Char) (width : Nat) (message : String) (rest : List Row),
    ShowsLine file.text.toList snippet.firstLine before shown ∧ 0 < width ∧
      snippet.lineRows = .source (snippet.firstLine + 1) (String.ofList shown) ::
        .marker snippet.label.style snippet.startColumn width message :: rest
  last : ∃ (before shown : List Char) (column width : Nat) (rest : List Row),
    ShowsLine file.text.toList snippet.lastLine before shown ∧ 0 < width ∧
      snippet.lineRows = rest ++ [.source (snippet.lastLine + 1) (String.ofList shown),
        .marker snippet.label.style column width snippet.label.message]

namespace Snippet

variable {files : StoryFiles} {file : SourceFile} {label : Label} {snippet : Snippet}
variable {text : String} {texts : List String} {lines : List ShownLine} {line : ShownLine}

/-! ## Lines -/

/-- Values that are read from items stand in the places of the items. -/
theorem getElem?_of_mapM {α β : Type} {f : α → Option β} {items : List α} {values : List β}
    (h : items.mapM f = some values) :
    values.length = items.length ∧
      ∀ (i : Nat) (item : α), items[i]? = some item → f item = values[i]? := by
  induction items generalizing values with
  | nil =>
      cases h
      simp
  | cons item rest ih =>
      simp only [List.mapM_cons, bind, Option.bind_eq_some_iff] at h
      obtain ⟨value, hvalue, others, hothers, h⟩ := h
      cases h
      obtain ⟨hlength, hothers⟩ := ih hothers
      refine ⟨by simp [hlength], fun i other hi => ?_⟩
      cases i with
      | zero =>
          obtain rfl : item = other := by simpa using hi
          exact hvalue
      | succ i => exact hothers i other (by simpa using hi)

/-- An underline has one mark at least. -/
theorem width_shownLine_pos (snippet : Snippet) (text : String) (index : Nat) :
    0 < (snippet.shownLine text index).width := by
  simp only [shownLine]
  omega

/-- The rows of a snippet start with the first line that is shown. -/
theorem lineRows_of_shown_cons (h : snippet.shown = line :: lines) :
    ∃ message rest, snippet.lineRows = .source line.number line.text ::
      .marker snippet.label.style line.column line.width message :: rest := by
  simp only [lineRows, h, List.zipIdx_cons, List.flatMap_cons]
  exact ⟨_, _, rfl⟩

/-- The rows of a snippet end with the last line that is shown and the message of the label. -/
theorem lineRows_of_shown_concat (h : snippet.shown = lines ++ [line]) :
    ∃ rest, snippet.lineRows = rest ++ [.source line.number line.text,
      .marker snippet.label.style line.column line.width snippet.label.message] := by
  simp only [lineRows, h, List.zipIdx_append, List.zipIdx_singleton, Nat.zero_add,
    List.flatMap_append, List.flatMap_cons, List.flatMap_nil, List.append_nil,
    List.length_append, List.length_singleton, if_true, ← List.append_assoc]
  exact ⟨_, rfl⟩

/-- The first line of a snippet is shown, underlined from the start of the range on. -/
theorem lineRows_of_lines_cons (h : snippet.lines = text :: texts) :
    ∃ width message rest, 0 < width ∧ snippet.lineRows = .source (snippet.firstLine + 1) text ::
      .marker snippet.label.style snippet.startColumn width message :: rest := by
  have hshows : snippet.shows 0 = true := by simp [shows]
  have hshown : ∃ lines, snippet.shown = snippet.shownLine text 0 :: lines := by
    simp only [shown, h, List.zipIdx_cons, List.filter_cons, hshows, if_true, List.map_cons]
    exact ⟨_, rfl⟩
  obtain ⟨lines, hshown⟩ := hshown
  obtain ⟨message, rest, hrows⟩ := lineRows_of_shown_cons hshown
  exact ⟨_, message, rest, snippet.width_shownLine_pos text 0, hrows⟩

/-- The last line of a snippet is shown, with the message of the label. -/
theorem lineRows_of_lines_concat (h : snippet.lines = texts ++ [text]) :
    ∃ column width rest, 0 < width ∧ snippet.lineRows =
      rest ++ [.source (snippet.firstLine + texts.length + 1) text,
        .marker snippet.label.style column width snippet.label.message] := by
  have hshows : snippet.shows texts.length = true := by simp [shows, h]
  have hshown : ∃ lines, snippet.shown = lines ++ [snippet.shownLine text texts.length] := by
    simp only [shown, h, List.zipIdx_append, List.zipIdx_singleton, Nat.zero_add,
      List.filter_append, List.filter_cons, hshows, if_true, List.filter_nil, List.map_append,
      List.map_cons, List.map_nil]
    exact ⟨_, rfl⟩
  obtain ⟨lines, hshown⟩ := hshown
  obtain ⟨rest, hrows⟩ := lineRows_of_shown_concat hshown
  exact ⟨_, _, rest, snippet.width_shownLine_pos text texts.length, hrows⟩

/-- The texts of a snippet are those of the lines of its file from the first to the last, each as it
is shown. -/
theorem lines_of_resolve? (hfile : files.codeMap.file? label.fileId = some file)
    (h : resolve? files label = some snippet) :
    snippet.lines.length = snippet.lastLine + 1 - snippet.firstLine ∧
      ∀ index text, snippet.lines[index]? = some text → ∃ before shown stop,
        text = String.ofList shown ∧
          ShowsLine file.text.toList (snippet.firstLine + index) before shown ∧
          file.lineRange? ((snippet.firstLine + index : Nat) + 1 : Int) =
            some (before.length, stop) := by
  obtain ⟨source, hsource, hlines⟩ := (resolvedFrom_of_resolve? h).lines_eq
  cases (StoryFiles.source?_of_file? hfile).symm.trans hsource
  obtain ⟨hcount, htexts⟩ := getElem?_of_mapM hlines
  rw [List.length_range'] at hcount
  refine ⟨hcount, fun index text htext => ?_⟩
  have hindex : index < snippet.lines.length := (List.getElem?_eq_some_iff.1 htext).1
  have hline := htexts index (snippet.firstLine + index) (by
    rw [List.getElem?_range' (by omega), Nat.one_mul])
  exact exists_showsLine hfile (hline.trans htext)

/-- The snippet of a label is drawn from the file of the label. -/
theorem drawnFrom_of_resolve? (hfile : files.codeMap.file? label.fileId = some file)
    (h : resolve? files label = some snippet) : snippet.DrawnFrom file := by
  have hresolved := resolvedFrom_of_resolve? h
  have hfirst := hresolved.firstLine_eq
  have hlast := hresolved.lastLine_eq
  rw [StoryFiles.lineIndex?_of_file? hfile] at hfirst hlast
  have hle : snippet.firstLine ≤ snippet.lastLine :=
    SourceFile.lineIndex?_mono hfirst hlast (by omega)
  obtain ⟨hcount, hshown⟩ := lines_of_resolve? hfile h
  have hsome : snippet.lines ≠ [] := List.ne_nil_of_length_pos (by omega)
  constructor
  · obtain ⟨text, texts, hcons⟩ := List.exists_cons_of_ne_nil hsome
    obtain ⟨before, shown, -, rfl, hshows, -⟩ := hshown 0 text (by rw [hcons]; rfl)
    obtain ⟨width, message, rest, hwidth, hrows⟩ := lineRows_of_lines_cons hcons
    exact ⟨before, shown, width, message, rest, hshows, hwidth, hrows⟩
  · obtain ⟨texts, text, hconcat⟩ : ∃ texts text, snippet.lines = texts ++ [text] :=
      ⟨_, _, (List.dropLast_concat_getLast hsome).symm⟩
    obtain ⟨before, shown, -, rfl, hshows, -⟩ :=
      hshown texts.length text (by rw [hconcat, List.getElem?_concat_length])
    obtain ⟨column, width, rest, hwidth, hrows⟩ := lineRows_of_lines_concat hconcat
    have hlength : snippet.firstLine + texts.length = snippet.lastLine := by
      rw [hconcat, List.length_append, List.length_singleton] at hcount
      omega
    rw [hlength] at hshows hrows
    exact ⟨before, shown, column, width, rest, hshows, hwidth, hrows⟩

/-- The line that the files give an offset is found by counting along the text. -/
theorem lineOf_of_lineIndex? (hfile : files.codeMap.file? label.fileId = some file) {offset : Int}
    {index : Nat} (hstart : 0 ≤ offset) (hlength : offset ≤ file.text.length)
    (h : files.lineIndex? label.fileId offset = some index) :
    lineOf file.text.toList offset.toNat = index := by
  have hoffset : (offset.toNat : Int) = offset := Int.toNat_of_nonneg hstart
  rw [StoryFiles.lineIndex?_of_file? hfile, ← hoffset, SourceFile.lineIndex?_eq (by omega)] at h
  exact Option.some.inj h

/-- A label that lies in its file has a snippet, and the lines of the snippet show it. -/
theorem exists_shownBy (label : Label) (hfile : files.codeMap.file? label.fileId = some file)
    (hstart : 0 ≤ label.start) (hstop : label.start ≤ label.stop)
    (hlength : label.stop ≤ file.text.length) :
    ∃ snippet, resolve? files label = some snippet ∧
      ∀ page : Page, label.ShownBy files page (snippet.lineRows.map page.rowLine) := by
  obtain ⟨snippet, hresolve, rfl, -, hposition⟩ :=
    exists_resolve?_eq label hfile hstart hstop hlength
  have hlast := lineOf_of_lineIndex? hfile (by omega) (by omega)
    (resolvedFrom_of_resolve? hresolve).lastLine_eq
  obtain ⟨hdrawnFirst, hdrawnLast⟩ := drawnFrom_of_resolve? hfile hresolve
  refine ⟨snippet, hresolve, fun page => ⟨?_, ?_⟩⟩
  · obtain ⟨before, shown, width, message, rest, hshows, hwidth, hrows⟩ := hdrawnFirst
    refine ⟨file, _, _, width, before, shown, message, rest.map page.rowLine, hfile, hposition,
      hshows, hwidth, ?_⟩
    rw [hrows]
    rfl
  · obtain ⟨before, shown, column, width, rest, hshows, hwidth, hrows⟩ := hdrawnLast
    refine ⟨file, _, column, width, before, shown, rest.map page.rowLine, hfile, ?_, hshows,
      hwidth, ?_⟩
    · rw [Position.ofOffset_eq_columnsOf, ← hlast]
      rfl
    · rw [hrows, List.map_append]
      rfl

/-! ## Blocks -/

/-- The rows of a snippet stand one after the other among the rows of all snippets. -/
theorem lineRows_infix_rows {current : Option String} {snippets : List Snippet}
    (h : snippet ∈ snippets) : snippet.lineRows <:+: rows current snippets := by
  induction snippets generalizing current with
  | nil => cases h
  | cons first rest ih =>
      rw [rows]
      rcases List.mem_cons.1 h with rfl | h
      · refine List.IsInfix.trans ?_ (List.prefix_append _ _).isInfix
        exact ((List.suffix_cons _ _).trans (List.suffix_append _ _)).isInfix
      · exact (ih h).trans (List.suffix_append _ _).isInfix

end Snippet

namespace Diagnostic

variable {files : StoryFiles} {file : SourceFile} {label : Label} {d : Diagnostic}

/-- A diagnostic shows a label if lines of its text, one after the other, show it, with colour and
without. -/
def ShowsLabel (d : Diagnostic) (files : StoryFiles) (label : Label) : Prop :=
  ∀ colored, ∃ above lines below : List String,
    label.ShownBy files (d.page files colored) lines ∧
      d.render colored files = String.join ((above ++ lines ++ below).map (· ++ "\n"))

/-- The rows of a snippet stand one after the other in the block. -/
theorem lineRows_infix_block {snippet : Snippet} (h : snippet ∈ d.snippets files) :
    snippet.lineRows <:+: d.block files := by
  have hsome : (d.snippets files).isEmpty = false :=
    List.isEmpty_eq_false_iff.2 (List.ne_nil_of_mem h)
  simp only [block, hsome, Bool.false_eq_true, if_false]
  exact (Snippet.lineRows_infix_rows h).trans (List.prefix_append _ _).isInfix

/-- Rows of a block are written one after the other as lines of the text. -/
theorem exists_render_eq {rows : List Row} (h : rows <:+: d.block files) (colored : Bool) :
    ∃ above below : List String, d.render colored files = String.join
      ((above ++ rows.map (d.page files colored).rowLine ++ below).map (· ++ "\n")) := by
  obtain ⟨before, after, hblock⟩ := h
  let page := d.page files colored
  refine ⟨page.headline d :: before.map page.rowLine,
    after.map page.rowLine ++ d.notes.map page.noteLine ++ [""], ?_⟩
  rw [render_eq_page, ← hblock]
  simp only [page, List.map_append, List.cons_append, List.append_assoc]

/-- Every label that lies in its file is shown. -/
theorem showsLabel (hlabel : label ∈ d.labels)
    (hfile : files.codeMap.file? label.fileId = some file) (hstart : 0 ≤ label.start)
    (hstop : label.start ≤ label.stop) (hlength : label.stop ≤ file.text.length) :
    d.ShowsLabel files label := by
  obtain ⟨snippet, hresolve, hshown⟩ :=
    Snippet.exists_shownBy label hfile hstart hstop hlength
  have hsnippet : snippet ∈ d.snippets files := List.mem_filterMap.2 ⟨label, hlabel, hresolve⟩
  intro colored
  obtain ⟨above, below, hrender⟩ := exists_render_eq (lineRows_infix_block hsnippet) colored
  exact ⟨above, _, below, hshown _, hrender⟩

end Diagnostic

end StoryLint
