import StoryLint.Issue.Report
import StoryLint.Proofs.Diagnostic.Location

/-!
# What a report says of an issue

An issue has a place if its context names a file. `Issue.text_of_place` and
`Issue.render_of_place` say where a compact line and a rich block write it down, and
`Issue.mem_block_location_iff` that the block has a primary location row for the place of the
issue, and no other one.
-/

namespace StoryLint

namespace Issue

variable {issue : Issue} {files : StoryFiles} {name : String} {position : Position}

/-- The file and the position where an issue starts, if its context names a file. -/
def place? (issue : Issue) : Option (String × Position) :=
  issue.context.bind fun c => c.fileName.map fun name => (name, c.startPosition)

/-- The line of a compact report, where colour is off. -/
def line (issue : Issue) : String :=
  issue.severity.label ++ ": " ++ issue.text ++ "\n"

/-- The headline of a rich report, where colour is off. -/
def headline (issue : Issue) : String :=
  issue.severity.codeName ++ "[" ++ issue.name ++ "]: " ++ issue.message

/-- All that a report writes about one issue. -/
def reportText (colored compact : Bool) (files : StoryFiles) (issue : Issue) : String :=
  if compact then String.join (issue.compactTexts colored)
  else (issue.diagnostic files).render colored files

/-- A report goes from issue to issue. -/
theorem join_reportTexts (colored compact : Bool) (files : StoryFiles) (issues : List Issue) :
    String.join (reportTexts colored compact files issues) =
      String.join (issues.map (reportText colored compact files)) := by
  cases compact with
  | false => rfl
  | true =>
      induction issues with
      | nil => rfl
      | cons issue rest ih =>
          simp only [reportTexts, if_true] at ih ⊢
          rw [List.flatMap_cons, String.join_append, ih, List.map_cons, String.join_cons]
          rfl

/-- In a compact report an issue is its line. -/
theorem reportText_compact (files : StoryFiles) : reportText false true files = line := by
  funext issue
  simp [reportText, compactTexts, compactSeverity, Span.styled, line, String.append_assoc]

/-- In a full report an issue is its diagnostic. -/
theorem reportText_rich (colored : Bool) (files : StoryFiles) :
    reportText colored false files = fun issue =>
      (issue.diagnostic files).render colored files := rfl

/-- The text of an issue is its message behind its place. -/
theorem text_eq_locate (issue : Issue) :
    issue.text = SourceContext.locate issue.context issue.message := by
  cases issue <;> rfl

/-- A place is the start of a context that names a file. -/
theorem exists_context_of_place? (h : issue.place? = some (name, position)) :
    ∃ c, issue.context = some c ∧ c.fileName = some name ∧ c.startPosition = position := by
  simp only [place?, Option.bind_eq_some_iff, Option.map_eq_some_iff, Prod.mk.injEq] at h
  obtain ⟨c, hc, _, hname, rfl, hposition⟩ := h
  exact ⟨c, hc, hname, hposition⟩

/-- A compact line starts with the place of its issue. -/
theorem text_of_place (h : issue.place? = some (name, position)) :
    issue.text = name ++ ":" ++ position.text ++ ": " ++ issue.message := by
  obtain ⟨c, hc, hname, rfl⟩ := exists_context_of_place? h
  rw [text_eq_locate, hc, SourceContext.locate, hname]

/-! ## Snippets -/

/-- The label at the place of an issue. -/
def placeLabel (id : Nat) (span : Int × Int) : Label :=
  { style := .primary, fileId := id, start := span.1, stop := span.2 }

/-- The label at the earlier place that an issue points back to. -/
def earlierLabel? (issue : Issue) (files : StoryFiles) : Option Label :=
  (files.resolve? issue.earlier?).map fun (id, (start, stop)) =>
    { style := .secondary, fileId := id, start, stop, message := earlierMessage }

/-- An issue in a known file has a label for its place, and one for its earlier place if there is
one. -/
theorem labels_of_resolve? {id : Nat} {span : Int × Int}
    (h : files.resolve? issue.context = some (id, span)) :
    (issue.diagnostic files).labels = placeLabel id span :: (issue.earlierLabel? files).toList := by
  simp only [diagnostic, h]
  rfl

/-- The label for an earlier place is secondary. -/
theorem style_of_earlierLabel? {label : Label} (h : issue.earlierLabel? files = some label) :
    label.style = .secondary := by
  obtain ⟨_, -, rfl⟩ := Option.map_eq_some_iff.1 h
  rfl

/-- An issue without a place has neither labels nor notes. -/
theorem diagnostic_of_no_place (h : issue.place? = none) :
    issue.diagnostic files =
      { severity := issue.severity, message := issue.message, code := issue.name } := by
  have hresolve : files.resolve? issue.context = none := by
    refine StoryFiles.resolve?_eq_none ?_
    simpa [place?, Option.bind_eq_none_iff] using h
  simp only [diagnostic, hresolve]

/-- A note of a report is the suggestion for its issue. -/
theorem suggestion?_of_mem_notes {text : String} (h : text ∈ (issue.diagnostic files).notes) :
    issue.suggestion? files = some text := by
  simp only [diagnostic] at h
  split at h
  · cases h
  · exact Option.mem_toList.1 h

/-- A suggestion is about a dead link, or about a link with blanks around its target. -/
theorem suggestion?_cases {text : String} (h : issue.suggestion? files = some text) :
    ∃ w denied, issue = .warning w denied ∧
      ((w.kind = .deadLink ∧ ∃ target, w.detail = some target ∧
          Similarity.deadLinkNote? target files.passageNames = some text) ∨
        (w.kind = .whitespaceInLink ∧ ∃ c, w.context = some c ∧
          Link.repairNote? c.contents = some text)) := by
  cases issue with
  | error e => cases h
  | warning w denied =>
      refine ⟨w, denied, rfl, ?_⟩
      simp only [suggestion?] at h
      split at h
      case h_1 hkind => exact .inl ⟨hkind, Option.bind_eq_some_iff.1 h⟩
      case h_2 hkind => exact .inr ⟨hkind, Option.bind_eq_some_iff.1 h⟩
      case h_3 => cases h

/-- The severity, the message and the code are those of the issue in any case. -/
theorem diagnostic_severity : (issue.diagnostic files).severity = issue.severity := by
  simp only [diagnostic]
  split <;> rfl

/-- A diagnostic has the message of its issue. -/
theorem diagnostic_message : (issue.diagnostic files).message = issue.message := by
  simp only [diagnostic]
  split <;> rfl

/-- A diagnostic has the name of its issue as code. -/
theorem diagnostic_code : (issue.diagnostic files).code = issue.name := by
  simp only [diagnostic]
  split <;> rfl

/-- The first snippet of an issue with a place is where the issue starts; another snippet is
secondary. -/
theorem exists_snippets_eq (hc : ∀ c ∈ issue.context, c.InMap files.codeMap)
    (h : issue.place? = some (name, position)) :
    ∃ (first : Snippet) (rest : List Snippet) (line column : Nat),
      (issue.diagnostic files).snippets files = first :: rest ∧
      position = { line, column } ∧
      first.locationRow = .location .primary name line column ∧
      ∀ snippet ∈ rest, snippet.label.style = .secondary := by
  obtain ⟨c, hcontext, hname, rfl⟩ := exists_context_of_place? h
  obtain ⟨id, hresolve, hfile⟩ := StoryFiles.exists_resolve?_eq (hc c hcontext) hname
  rw [← hcontext] at hresolve
  obtain ⟨first, hfirst, hlabel, hfileName, hposition⟩ :=
    Snippet.exists_resolve?_eq (placeLabel id c.span) hfile c.start_nonneg c.start_le_stop
      c.stop_le_length
  -- Behind the label of the issue there is at most the one of the earlier place.
  refine ⟨first, (issue.earlierLabel? files).toList.filterMap (Snippet.resolve? files), _, _, ?_,
    hposition, ?_, ?_⟩
  · rw [Diagnostic.snippets, labels_of_resolve? hresolve, List.filterMap_cons_some hfirst]
  · rw [Snippet.locationRow, hlabel, hfileName]
    rfl
  · intro snippet hsnippet
    obtain ⟨label, hmem, hresolved⟩ := List.mem_filterMap.1 hsnippet
    rw [(Snippet.resolvedFrom_of_resolve? hresolved).label_eq]
    exact style_of_earlierLabel? (by simpa using hmem)

/-- An issue without a place shows no lines. -/
theorem snippets_of_no_place (h : issue.place? = none) :
    (issue.diagnostic files).snippets files = [] := by
  rw [diagnostic_of_no_place h]
  rfl

/-- The primary location row of a block is the place of its issue. -/
theorem mem_block_location_iff {line column : Nat}
    (hc : ∀ c ∈ issue.context, c.InMap files.codeMap) :
    Row.location .primary name line column ∈ (issue.diagnostic files).block files ↔
      issue.place? = some (name, { line, column }) := by
  cases hplace : issue.place? with
  | none => simp [Diagnostic.block, snippets_of_no_place hplace]
  | some place =>
      obtain ⟨name', position⟩ := place
      obtain ⟨first, rest, line', column', hsnippets, rfl, hfirst, hrest⟩ :=
        exists_snippets_eq hc hplace
      have hsecondary : ¬ ∃ snippet ∈ rest,
          snippet.locationRow = .location .primary name line column := by
        rintro ⟨snippet, hsnippet, hrow⟩
        simp [Snippet.locationRow, hrest snippet hsnippet] at hrow
      rw [Option.some.injEq, Prod.mk.injEq, Position.mk.injEq, Int.natCast_inj, Int.natCast_inj]
      simp [Diagnostic.block, hsnippets, Snippet.mem_rows_location_iff, hsecondary, hfirst]

/-! ## Blocks without colour -/

/-- The headline of a diagnostic is written as the headline of its issue. -/
theorem renderAll_headline (issue : Issue) (files : StoryFiles) :
    Span.renderAll false (issue.diagnostic files).headline = issue.headline := by
  have hmark : "]: " = "]" ++ ": " := rfl
  simp only [Diagnostic.headline, diagnostic_severity, diagnostic_message, diagnostic_code,
    Span.styled, Span.renderAll_cons, Span.renderAll_nil, Span.render_false, headline, hmark,
    String.append_assoc, String.append_empty]

/-- A position is written as line and column. -/
theorem position_text (line column : Nat) :
    ({ line, column } : Position).text = toString line ++ ":" ++ toString column := rfl

/-- The block of an issue with a place: below the headline stands the location row. -/
theorem render_of_place (hc : ∀ c ∈ issue.context, c.InMap files.codeMap)
    (h : issue.place? = some (name, position)) :
    ∃ width rest, (issue.diagnostic files).render false files =
      issue.headline ++ "\n" ++
        (spaces width ++ "--> " ++ name ++ ":" ++ position.text ++ "\n") ++ rest := by
  obtain ⟨first, rest, line, column, hsnippets, rfl, hfirst, -⟩ := exists_snippets_eq hc h
  have hblock : ∃ rows, (issue.diagnostic files).block files =
      .location .primary name line column :: rows := by
    simp [Diagnostic.block, hsnippets, Snippet.rows, hfirst]
  obtain ⟨rows, hblock⟩ := hblock
  refine ⟨Snippet.gutterWidth (first :: rest) - 1, ?_⟩
  simp only [Diagnostic.render, Diagnostic.lines, hblock, hsnippets]
  simp only [List.map_cons, List.cons_append, String.join_cons, renderAll_headline, Row.spans,
    Span.renderAll_cons, Span.render_false, Span.plain, Span.styled, Span.renderAll_nil,
    position_text, LabelStyle.arrow]
  have harrow : "--> " = "-->" ++ " " := rfl
  simp only [harrow, String.append_assoc, String.append_empty]
  exact ⟨_, rfl⟩

/-- The block of an issue without a place is its headline. -/
theorem render_of_no_place (h : issue.place? = none) :
    (issue.diagnostic files).render false files = issue.headline ++ "\n\n" := by
  have hlines : (issue.diagnostic files).lines files = [(issue.diagnostic files).headline] := by
    rw [Diagnostic.lines, Diagnostic.block, snippets_of_no_place h, diagnostic_of_no_place h]
    rfl
  rw [Diagnostic.render, hlines]
  simp [renderAll_headline, String.append_assoc]

end Issue

end StoryLint
