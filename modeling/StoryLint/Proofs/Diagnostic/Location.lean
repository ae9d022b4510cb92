import StoryLint.Diagnostic.Layout
import StoryLint.Proofs.Source.CodeMap
import StoryLint.Proofs.Source.Line

/-!
# Where a snippet says it is

A context of a known file becomes a label, the label a snippet, and the snippet a location row.
Along this way nothing is lost: `Snippet.exists_resolve?_eq` finds the snippet of every label
that lies in its file, and the snippet starts at the position of the label's start, as it is
counted along the text. `Snippet.mem_rows_location_iff` says that the primary location rows of a
block are those of its primary snippets.
-/

namespace StoryLint

/-! ## Files -/

namespace SourceFile

variable {file : SourceFile}

/-- The context that covers a file has its text as contents. -/
theorem contents_context (file : SourceFile) : file.context.contents = file.text := by
  have hlength : file.text.length = file.text.toList.length := String.length_toList.symm
  simp [SourceContext.contents, context, SourceContext.whole, SourceContext.first,
    SourceContext.last, SourceContext.endOf, Offset.value, hlength]

end SourceFile

namespace StoryFiles

variable {files : StoryFiles} {id : Int} {file : SourceFile} {c : SourceContext} {name : String}

/-- The text of a file that is there. -/
theorem source?_of_file? (h : files.codeMap.file? id = some file) :
    files.source? id = some file.text := by
  simp [source?, CodeMap.context?, h, SourceFile.contents_context]

/-- A text belongs to a file. -/
theorem exists_file?_of_source? {source : String} (h : files.source? id = some source) :
    ∃ file, files.codeMap.file? id = some file ∧ file.text = source := by
  simp only [source?, CodeMap.context?, Option.map_map, Option.map_eq_some_iff] at h
  obtain ⟨file, hfile, rfl⟩ := h
  exact ⟨file, hfile, file.contents_context.symm⟩

/-- The name of a file that is there. -/
theorem name?_of_file? (h : files.codeMap.file? id = some file) :
    files.name? id = some file.name := by
  simp [name?, CodeMap.name?, h]

/-- An offset is on the line of its file. -/
theorem lineIndex?_of_file? (h : files.codeMap.file? id = some file) (offset : Int) :
    files.lineIndex? id offset = file.lineIndex? offset := by
  simp [lineIndex?, h]

/-- The lines of a file are counted from zero by labels and from one by the file. -/
theorem lineRange?_of_file? (h : files.codeMap.file? id = some file) (index : Int) :
    files.lineRange? id index = file.lineRange? (index + 1) := by
  simp [lineRange?, CodeMap.lineRange?, h]

/-- A context that lies in the files is found there, with its text. -/
theorem exists_resolve?_eq (hc : c.InMap files.codeMap) (hname : c.fileName = some name) :
    ∃ id : Nat, files.resolve? (some c) = some (id, c.span) ∧
      files.codeMap.file? id = some ⟨name, c.text⟩ := by
  obtain ⟨id, hid, hfile⟩ := CodeMap.exists_idOf?_eq (hc name hname)
  exact ⟨id, by simp [resolve?, hname, idOf?, hid], hfile⟩

/-- Without a file name there is nothing to find. -/
theorem resolve?_eq_none {context : Option SourceContext}
    (h : context.bind (·.fileName) = none) : files.resolve? context = none := by
  cases context with
  | none => rfl
  | some c =>
      have hname : c.fileName = none := h
      simp [resolve?, hname]

end StoryFiles

/-! ## Snippets -/

namespace Snippet

variable {files : StoryFiles} {file : SourceFile} {label : Label}

/-- Lines that are all there can be read. -/
theorem exists_mapM_eq {α β : Type} {f : α → Option β} {items : List α}
    (h : ∀ item ∈ items, (f item).isSome) : ∃ values, items.mapM f = some values := by
  induction items with
  | nil => exact ⟨[], rfl⟩
  | cons item rest ih =>
      obtain ⟨value, hvalue⟩ := Option.isSome_iff_exists.1 (h item List.mem_cons_self)
      obtain ⟨values, hvalues⟩ := ih fun other hother => h other (List.mem_cons_of_mem _ hother)
      exact ⟨value :: values, by simp [List.mapM_cons, hvalue, hvalues]⟩

/-- Each value of a list of steps that all succeed comes from some item. -/
theorem exists_of_mem_mapM {α β : Type} {f : α → Option β} {items : List α} {values : List β}
    (h : items.mapM f = some values) {value : β} (hvalue : value ∈ values) :
    ∃ item ∈ items, f item = some value := by
  induction items generalizing values with
  | nil =>
      cases h
      cases hvalue
  | cons item rest ih =>
      simp only [List.mapM_cons, bind, Option.bind_eq_some_iff] at h
      obtain ⟨first, hfirst, others, hothers, h⟩ := h
      cases h
      obtain rfl | hvalue := List.mem_cons.1 hvalue
      · exact ⟨item, List.mem_cons_self, hfirst⟩
      · obtain ⟨other, hother, hsome⟩ := ih hothers hvalue
        exact ⟨other, List.mem_cons_of_mem _ hother, hsome⟩

/-- A line that starts in the file has a text. -/
theorem isSome_lineText? (hfile : files.codeMap.file? label.fileId = some file)
    {source : List Char} {index : Nat} (h : index < file.lineStarts.length) :
    (lineText? files label.fileId source index).isSome := by
  rw [lineText?, Option.isSome_map, StoryFiles.lineRange?_of_file? hfile]
  exact SourceFile.isSome_lineRange?_succ h

/-- What the snippet of a label is made of. -/
structure ResolvedFrom (files : StoryFiles) (label : Label) (snippet : Snippet) : Prop where
  label_eq : snippet.label = label
  name?_eq : files.name? label.fileId = some snippet.fileName
  firstLine_eq : files.lineIndex? label.fileId label.start = some snippet.firstLine
  lastLine_eq : files.lineIndex? label.fileId (max label.start (label.stop - 1)) =
    some snippet.lastLine
  lines_eq : ∃ source, files.source? label.fileId = some source ∧
    (List.range' snippet.firstLine (snippet.lastLine + 1 - snippet.firstLine)).mapM
      (lineText? files label.fileId source.toList) = some snippet.lines
  startColumn_eq : ∃ start stop : Nat,
    files.lineRange? label.fileId snippet.firstLine = some (start, stop) ∧
      snippet.startColumn = (label.start - start).toNat
  endColumn_eq : ∃ start stop : Nat,
    files.lineRange? label.fileId snippet.lastLine = some (start, stop) ∧
      snippet.endColumn = label.stop - start

/-- A snippet says what its file and its label say. -/
theorem resolvedFrom_of_resolve? {snippet : Snippet} (h : resolve? files label = some snippet) :
    snippet.ResolvedFrom files label := by
  simp only [resolve?, bind, Option.bind_eq_some_iff] at h
  obtain ⟨source, hsource, name, hname, first, hfirst, last, hlast, lines, hlines,
    ⟨start, _⟩, hstart, ⟨stop, _⟩, hstop, h⟩ := h
  cases h
  exact ⟨rfl, hname, hfirst, hlast, ⟨source, hsource, hlines⟩, ⟨start, _, hstart, rfl⟩,
    ⟨stop, _, hstop, rfl⟩⟩

/-- A label of a known file has a snippet if it does not start before the file. -/
theorem exists_resolve?_eq_some (hfile : files.codeMap.file? label.fileId = some file)
    (hstart : 0 ≤ label.start) : ∃ snippet, resolve? files label = some snippet := by
  have hend : 0 ≤ max label.start (label.stop - 1) := by omega
  obtain ⟨first, hfirst⟩ := file.exists_lineIndex?_eq hstart
  obtain ⟨last, hlast⟩ := file.exists_lineIndex?_eq hend
  obtain ⟨firstStart, firstStop, hfirstRange, -⟩ :=
    SourceFile.exists_lineRange?_of_lineIndex? hfirst
  obtain ⟨lastStart, lastStop, hlastRange, -⟩ := SourceFile.exists_lineRange?_of_lineIndex? hlast
  have hreadable : ∀ index ∈ List.range' first (last + 1 - first),
      (lineText? files label.fileId file.text.toList index).isSome := by
    intro index hindex
    have hbounds := List.mem_range'_1.1 hindex
    have hlines := SourceFile.lt_of_lineIndex?_eq_some hlast
    exact isSome_lineText? hfile (by omega)
  obtain ⟨lines, hlines⟩ := exists_mapM_eq hreadable
  exact ⟨{ label, lines, fileName := file.name, firstLine := first, lastLine := last
           startColumn := (label.start - firstStart).toNat, endColumn := label.stop - lastStart },
    by simp [resolve?, StoryFiles.source?_of_file? hfile, StoryFiles.name?_of_file? hfile,
      StoryFiles.lineIndex?_of_file? hfile, StoryFiles.lineRange?_of_file? hfile, hfirst, hlast,
      hlines, hfirstRange, hlastRange]⟩

/-- A label with a snippet does not start before its file. -/
theorem start_nonneg_of_resolve? {snippet : Snippet}
    (hfile : files.codeMap.file? label.fileId = some file)
    (h : resolve? files label = some snippet) : 0 ≤ label.start := by
  have hline := (resolvedFrom_of_resolve? h).firstLine_eq
  rw [StoryFiles.lineIndex?_of_file? hfile] at hline
  by_contra hnegative
  rw [SourceFile.lineIndex?_eq_none_iff.2 (Int.not_le.1 hnegative)] at hline
  cases hline

/-- A snippet starts at the line and column that counting along the text gives. The columns of a
start behind the end of the text are counted on from the end. -/
theorem ofOffset_of_resolve? {snippet : Snippet}
    (hfile : files.codeMap.file? label.fileId = some file)
    (h : resolve? files label = some snippet) :
    Position.ofOffset file.text.toList label.start.toNat =
      { line := (snippet.firstLine + 1 : Nat)
        column := (snippet.startColumn + 1 : Nat) -
          ((label.start.toNat - file.text.length : Nat) : Int) } := by
  have hstart := start_nonneg_of_resolve? hfile h
  have hfrom := resolvedFrom_of_resolve? h
  have hline := hfrom.firstLine_eq
  obtain ⟨start, stop, hrange, hcolumn⟩ := hfrom.startColumn_eq
  rw [StoryFiles.lineIndex?_of_file? hfile, ← SourceFile.lineIndex?_min] at hline
  rw [StoryFiles.lineRange?_of_file? hfile] at hrange
  have hmin : ((min label.start.toNat file.text.length : Nat) : Int) =
      min label.start file.text.length := by omega
  have hend : min label.start.toNat file.text.length ≤ file.text.length := Nat.min_le_right _ _
  -- The text gives the start a line of the table, and the table has only one line for it.
  obtain ⟨index, lineStart, lineStop, hindex, hlineRange, hle, hposition⟩ :=
    SourceFile.exists_ofOffset_eq hend
  rw [hmin, hline] at hindex
  cases hindex
  rw [hrange] at hlineRange
  cases hlineRange
  have hbefore : file.text.toList.take (min label.start.toNat file.text.length) =
      file.text.toList.take label.start.toNat := by
    rw [← String.length_toList, ← List.take_take, List.take_length]
  rw [Position.ofOffset, hbefore, ← Position.ofOffset] at hposition
  rw [hposition, Position.mk.injEq]
  omega

/-- A label that lies in its file has a snippet. It starts where the label starts: at the line and
column that counting along the text gives. -/
theorem exists_resolve?_eq (label : Label)
    (hfile : files.codeMap.file? label.fileId = some file) (hstart : 0 ≤ label.start)
    (hstop : label.start ≤ label.stop) (hlength : label.stop ≤ file.text.length) :
    ∃ snippet, resolve? files label = some snippet ∧ snippet.label = label ∧
      snippet.fileName = file.name ∧
      Position.ofOffset file.text.toList label.start.toNat =
        { line := (snippet.firstLine + 1 : Nat), column := (snippet.startColumn + 1 : Nat) } := by
  obtain ⟨snippet, hsnippet⟩ := exists_resolve?_eq_some hfile hstart
  have hfrom := resolvedFrom_of_resolve? hsnippet
  have hname : file.name = snippet.fileName :=
    Option.some.inj ((StoryFiles.name?_of_file? hfile).symm.trans hfrom.name?_eq)
  have hbehind : label.start.toNat - file.text.length = 0 := by omega
  refine ⟨snippet, hsnippet, hfrom.label_eq, hname.symm, ?_⟩
  rw [ofOffset_of_resolve? hfile hsnippet, hbehind, Int.ofNat_zero, Int.sub_zero]

/-! ## Rows -/

variable {snippet : Snippet} {style : LabelStyle} {name : String} {line column : Nat}

/-- A line with a place stands above the lines of a snippet, never among them. -/
theorem location_notMem_lineRows : Row.location style name line column ∉ snippet.lineRows := by
  simp only [lineRows, List.mem_flatMap, not_exists, not_and]
  rintro ⟨text, index⟩ -
  dsimp only
  split <;> simp

/-- The location rows with the arrow of a primary label are those of the primary snippets. -/
theorem mem_rows_location_iff {current : Option String} {snippets : List Snippet} :
    Row.location .primary name line column ∈ rows current snippets ↔
      ∃ snippet ∈ snippets, snippet.locationRow = .location .primary name line column := by
  induction snippets generalizing current with
  | nil => simp [rows]
  | cons snippet rest ih =>
      simp only [rows, List.mem_append, List.mem_cons, ih, location_notMem_lineRows, reduceCtorEq,
        or_false, or_and_right, exists_or, exists_eq_left]
      refine or_congr ?_ Iff.rfl
      split
      · rw [List.mem_singleton, eq_comm]
      · rename_i hhidden
        simp only [not_or] at hhidden
        simp [locationRow, hhidden.2]

end Snippet

/-! ## Text without colour -/

/-- Without colour a span is written as its text. -/
@[simp] theorem Span.render_false (span : Span) : span.render false = span.text := rfl

/-- No spans are written as nothing. -/
@[simp] theorem Span.renderAll_nil (colored : Bool) : Span.renderAll colored [] = "" := rfl

/-- Spans are written one after the other. -/
@[simp] theorem Span.renderAll_cons (colored : Bool) (span : Span) (rest : List Span) :
    Span.renderAll colored (span :: rest) = span.render colored ++ Span.renderAll colored rest := by
  simp [Span.renderAll]

end StoryLint
