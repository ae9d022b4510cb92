import StoryLint.Proofs.Diagnostic.Location
import StoryLint.Proofs.Terminal.Escape
import StoryLint.Proofs.Text.Blank

/-!
# Diagnostics in colour

The layout of a diagnostic is made before any of it is painted: a line is a list of spans, and a
style never decides what stands in a span. A diagnostic whose texts and files hold no escape
character is therefore the same with colour and without, as far as a terminal shows it:
`Diagnostic.shows_render`.
-/

namespace StoryLint

open Terminal

variable {files : StoryFiles} {label : Label} {snippet : Snippet}

/-- The names and texts of files and the names of passages hold no escape character. -/
structure StoryFiles.Unescaped (files : StoryFiles) : Prop where
  sources : ∀ file ∈ files.codeMap.files,
    Terminal.Unescaped file.name ∧ Terminal.Unescaped file.text
  passageNames : ∀ known ∈ files.passageNames, ∀ name ∈ known, Terminal.Unescaped name

/-- The texts of a diagnostic hold no escape character. -/
structure Diagnostic.Unescaped (d : Diagnostic) : Prop where
  message : Terminal.Unescaped d.message
  code : Terminal.Unescaped d.code
  labels : ∀ label ∈ d.labels, Terminal.Unescaped label.message
  notes : ∀ note ∈ d.notes, Terminal.Unescaped note

/-- The texts of a row hold no escape character. -/
def Row.Unescaped : Row → Prop
  | .location _ fileName _ _ => Terminal.Unescaped fileName
  | .bar => True
  | .source _ text => Terminal.Unescaped text
  | .ellipsis => True
  | .marker _ _ _ message => Terminal.Unescaped message

/-! ## Snippets -/

namespace Snippet

/-- A line of a text without escape characters has none. -/
theorem unescaped_lineText? {id : Int} {source : String} {index : Nat} {line : String}
    (hsource : Unescaped source) (h : lineText? files id source.toList index = some line) :
    Unescaped line := by
  obtain ⟨⟨start, stop⟩, -, rfl⟩ := Option.map_eq_some_iff.1 h
  refine unescaped_ofList hsource ?_
  exact List.Subset.trans (Text.dropTail_prefix _ _).subset
    (List.Subset.trans (List.take_subset _ _) (List.drop_subset _ _))

/-- The file of a snippet and its lines come from the files. -/
theorem unescaped_of_resolve? (hfiles : files.Unescaped) (h : resolve? files label = some snippet) :
    Unescaped snippet.fileName ∧ ∀ line ∈ snippet.lines, Unescaped line := by
  have hresolved := resolvedFrom_of_resolve? h
  obtain ⟨source, hsource, hlines⟩ := hresolved.lines_eq
  obtain ⟨file, hfile, rfl⟩ := StoryFiles.exists_file?_of_source? hsource
  have hname := Option.some.inj ((StoryFiles.name?_of_file? hfile).symm.trans hresolved.name?_eq)
  have hmem := hfiles.sources file (CodeMap.mem_of_file? hfile)
  refine ⟨hname ▸ hmem.1, fun line hline => ?_⟩
  obtain ⟨index, -, hindex⟩ := exists_of_mem_mapM hlines hline
  exact unescaped_lineText? hmem.2 hindex

/-- A line that a snippet shows is one of its lines. -/
theorem mem_lines_of_mem_shown {line : ShownLine} (h : line ∈ snippet.shown) :
    line.text ∈ snippet.lines := by
  obtain ⟨⟨text, index⟩, hmem, rfl⟩ := List.mem_map.1 h
  exact List.fst_mem_of_mem_zipIdx (List.mem_filter.1 hmem).1

/-- The rows of a snippet hold what the snippet holds. -/
theorem unescaped_lineRows (hlines : ∀ line ∈ snippet.lines, Unescaped line)
    (hmessage : Unescaped snippet.label.message) : ∀ row ∈ snippet.lineRows, row.Unescaped := by
  intro row hrow
  obtain ⟨⟨line, index⟩, hline, hrow⟩ := List.mem_flatMap.1 hrow
  simp only [List.mem_append, List.mem_cons, List.not_mem_nil, or_false] at hrow
  obtain hrow | rfl | rfl := hrow
  · split at hrow
    · rw [List.mem_singleton.1 hrow]
      trivial
    · cases hrow
  · exact hlines _ (mem_lines_of_mem_shown (List.fst_mem_of_mem_zipIdx hline))
  · simp only [Row.Unescaped]
    split
    · exact hmessage
    · decide

/-- Snippets without escape characters in names, lines and messages have rows without any. -/
theorem unescaped_rows {snippets : List Snippet} {current : Option String}
    (h : ∀ snippet ∈ snippets, Unescaped snippet.fileName ∧
      (∀ line ∈ snippet.lines, Unescaped line) ∧ Unescaped snippet.label.message) :
    ∀ row ∈ rows current snippets, row.Unescaped := by
  induction snippets generalizing current with
  | nil => simp [rows]
  | cons snippet rest ih =>
      obtain ⟨hname, hlines, hmessage⟩ := h snippet List.mem_cons_self
      intro row hrow
      simp only [rows, List.mem_append, List.mem_cons] at hrow
      obtain (hrow | rfl | hrow) | hrow := hrow
      · split at hrow
        · rw [List.mem_singleton.1 hrow]
          exact hname
        · cases hrow
      · trivial
      · exact unescaped_lineRows hlines hmessage row hrow
      · exact ih (fun other hother => h other (.tail _ hother)) row hrow

end Snippet

/-! ## Lines -/

/-- Spaces are no escape characters. -/
theorem unescaped_spaces (width : Nat) : Terminal.Unescaped (spaces width) :=
  unescaped_replicate (by decide) width

/-- Padding adds no escape character. -/
theorem unescaped_padLeft {text : String} (h : Terminal.Unescaped text) (width : Nat) :
    Terminal.Unescaped (padLeft width text) :=
  unescaped_append.2 ⟨unescaped_replicate (by decide) _, h⟩

namespace Row

/-- The text under a line has an escape character only from the message. -/
theorem unescaped_markText {message : String} (h : Terminal.Unescaped message)
    (style : LabelStyle) (width : Nat) : Terminal.Unescaped (markText style width message) := by
  have hmark : Terminal.Unescaped (String.ofList (List.replicate width style.mark)) :=
    unescaped_replicate (by cases style <;> decide) width
  simp only [markText]
  split
  · exact hmark
  · simp +decide [hmark, h]

/-- The spans of a row hold what the row holds. -/
theorem unescaped_spans {row : Row} (h : row.Unescaped) (gutter : Nat) (severity : Severity) :
    ∀ span ∈ row.spans gutter severity, Terminal.Unescaped span.text := by
  have hspaces := unescaped_spaces
  have hnumber : ∀ n : Nat, Terminal.Unescaped n.repr := unescaped_toString_nat
  cases row with
  | location style fileName line column =>
      have hname : Terminal.Unescaped fileName := h
      have harrow : Terminal.Unescaped style.arrow := by cases style <;> decide
      simp +decide [spans, Span.plain, Span.styled, hspaces, hnumber, hname, harrow]
  | bar => simp +decide [spans, barSpan, Span.plain, Span.styled, hspaces]
  | source number text =>
      have htext : Terminal.Unescaped text := h
      simp +decide [spans, barSpan, Span.plain, Span.styled, htext,
        unescaped_padLeft (hnumber number)]
  | ellipsis =>
      have hdots : Terminal.Unescaped "..." := by decide
      simp +decide [spans, barSpan, Span.plain, Span.styled, unescaped_padLeft hdots]
  | marker style column width message =>
      have hmark := unescaped_markText h style width
      simp +decide [spans, barSpan, Span.plain, Span.styled, hspaces, hmark]

end Row

namespace Diagnostic

variable {d : Diagnostic}

/-- A diagnostic and files without escape characters give rows without any. -/
theorem unescaped_block (hd : d.Unescaped) (hfiles : files.Unescaped) :
    ∀ row ∈ d.block files, row.Unescaped := by
  have hsnippets : ∀ snippet ∈ d.snippets files, Terminal.Unescaped snippet.fileName ∧
      (∀ line ∈ snippet.lines, Terminal.Unescaped line) ∧
      Terminal.Unescaped snippet.label.message := by
    intro snippet hsnippet
    obtain ⟨label, hlabel, hresolve⟩ := List.mem_filterMap.1 hsnippet
    obtain ⟨hname, hlines⟩ := Snippet.unescaped_of_resolve? hfiles hresolve
    rw [(Snippet.resolvedFrom_of_resolve? hresolve).label_eq]
    exact ⟨hname, hlines, hd.labels label hlabel⟩
  intro row hrow
  simp only [block] at hrow
  split at hrow
  · cases hrow
  · obtain hrow | hrow := List.mem_append.1 hrow
    · exact Snippet.unescaped_rows hsnippets row hrow
    · rw [List.mem_singleton.1 hrow]
      trivial

/-- Every line of a diagnostic is made of its texts and those of the files. -/
theorem unescaped_lines (hd : d.Unescaped) (hfiles : files.Unescaped) :
    ∀ line ∈ d.lines files, ∀ span ∈ line, Terminal.Unescaped span.text := by
  intro line hline
  simp only [lines, List.cons_append, List.mem_cons, List.mem_append, List.mem_map] at hline
  obtain rfl | ⟨row, hrow, rfl⟩ | ⟨note, hnote, rfl⟩ := hline
  · have hseverity : Terminal.Unescaped d.severity.codeName := by
      cases d.severity <;> decide
    simp +decide [headline, Span.styled, hseverity, hd.message, hd.code]
  · exact Row.unescaped_spans (unescaped_block hd hfiles row hrow) _ _
  · simp +decide [noteSpans, Span.plain, Span.styled, unescaped_spaces, hd.notes note hnote]

/-- A diagnostic without escape characters shows the same with colour as without. -/
theorem shows_render (hd : d.Unescaped) (hfiles : files.Unescaped) :
    Shows (d.render true files) (d.render false files) := by
  have hline : Shows "\n" "\n" := .plain (by decide)
  refine .append (Shows.join_map fun line hmem => ?_) hline
  exact .append (shows_renderAll (unescaped_lines hd hfiles line hmem)) hline

end Diagnostic

end StoryLint
