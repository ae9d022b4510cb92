import StoryLint.Proofs.Dump.Format
import StoryLint.Proofs.Issue.Report
import StoryLint.Proofs.Lint.Report
import StoryLint.Proofs.Text.Lines

/-!
# The lines of a compact report

A compact report has one line for every issue as long as the texts that a story puts into its
issues are of one line: the name of the file where an issue is, and the detail where the message
has a place for it (`Issue.ownTexts`). No other part of a line can have a newline.

`lint_compact_lines_iff` is the main result: these texts have no newlines exactly if the report
has one line for every issue. `lint_compact_broken_detail` is a report that has not.
-/

namespace StoryLint

open Text (newlines newlines_append newlines_eq_zero_iff)

/-! ## Messages -/

/-- A template of one line. -/
def Template.Unbroken : Template → Prop
  | .fixed text => newlines text = 0
  | .withDetail before after => newlines before = 0 ∧ newlines after = 0

/-- The newlines of a message are those of the detail, if there is a place for it. -/
theorem Template.Unbroken.newlines_format {template : Template} (h : template.Unbroken)
    (detail : Option String) :
    newlines (template.format detail) =
      if template.takesDetail then newlines (detail.getD "") else 0 := by
  cases template with
  | fixed text => exact h
  | withDetail before after =>
      obtain ⟨hbefore, hafter⟩ := h
      simp [format, takesDetail, hbefore, hafter]

/-- The template of a kind of warning has no newline. -/
theorem WarningKind.unbroken_template (kind : WarningKind) : kind.template.Unbroken := by
  cases kind <;> first
    | exact Text.newlines_literal (by decide)
    | exact ⟨Text.newlines_literal (by decide), Text.newlines_literal (by decide)⟩

/-- The template of a kind of error has no newline. -/
theorem ErrorKind.unbroken_template (kind : ErrorKind) : kind.template.Unbroken := by
  cases kind <;> first
    | exact Text.newlines_literal (by decide)
    | exact ⟨Text.newlines_literal (by decide), Text.newlines_literal (by decide)⟩

/-- A place in front of a message adds the newlines of the file name. -/
theorem SourceContext.newlines_locate (context : Option SourceContext) (message : String) :
    newlines (SourceContext.locate context message) =
      newlines ((context.bind (·.fileName)).getD "") + newlines message := by
  have hcolon : newlines ":" = 0 := by decide
  have hend : newlines ": " = 0 := by decide
  have hnumber : ∀ n : Int, newlines n.repr = 0 := Text.newlines_toString_int
  have hposition : ∀ p : Position, newlines p.text = 0 := by
    intro p
    simp [Position.text, hcolon, hnumber]
  cases context with
  | none => simp [locate]
  | some c =>
      cases hname : c.fileName with
      | none => simp [locate, hname, hposition, hend]
      | some name => simp [locate, hname, hposition, hcolon, hend]

namespace Issue

/-- The template of an issue's message. -/
def template : Issue → Template
  | error e => e.kind.template
  | warning w _ => w.kind.template

/-- The detail of an issue. -/
def detail? : Issue → Option String
  | error e => e.detail
  | warning w _ => w.detail

/-- The texts of the story that stand in the line of an issue: the name of the file, and the
detail where the message has a place for it. -/
def ownTexts (issue : Issue) : List String :=
  (issue.context.bind (·.fileName)).toList ++
    if issue.template.takesDetail then issue.detail?.toList else []

/-- The line of an issue without the newline at its end. -/
def lineText (issue : Issue) : String :=
  issue.severity.label ++ ": " ++ issue.text

variable {issue : Issue}

/-- The message of an issue is its template with its detail. -/
theorem message_eq_format (issue : Issue) :
    issue.message = issue.template.format issue.detail? := by
  cases issue <;> rfl

/-- The template of an issue has no newline. -/
theorem unbroken_template (issue : Issue) : issue.template.Unbroken := by
  cases issue with
  | error e => exact e.kind.unbroken_template
  | warning w denied => exact w.kind.unbroken_template

/-- The newlines in a line of a report are those of the story's own texts. -/
theorem newlines_lineText (issue : Issue) :
    newlines issue.lineText = newlines (String.join issue.ownTexts) := by
  have hcolon : newlines ": " = 0 := by decide
  have hlabel : newlines issue.severity.label = 0 := by
    cases issue.severity <;> decide
  have hjoin : ∀ text : Option String,
      newlines (text.getD "") = newlines (String.join text.toList) := by
    intro text
    cases text <;> simp
  rw [lineText, newlines_append, newlines_append, hlabel, hcolon, text_eq_locate,
    SourceContext.newlines_locate, message_eq_format, issue.unbroken_template.newlines_format,
    hjoin, ownTexts]
  cases issue.template.takesDetail <;> simp [hjoin]

/-- All newlines in the lines of issues are from the texts of the story. -/
theorem newlines_join_lineText (issues : List Issue) :
    newlines (String.join (issues.map lineText)) =
      newlines (String.join (issues.flatMap ownTexts)) := by
  induction issues with
  | nil => rfl
  | cons issue rest ih =>
      simp only [List.map_cons, List.flatMap_cons, String.join_cons, String.join_append,
        newlines_append, newlines_lineText, ih]

/-- A line of a report is one line exactly if the story's own texts in it have no newlines. -/
theorem newline_notMem_lineText_iff :
    '\n' ∉ issue.lineText.toList ↔ ∀ text ∈ issue.ownTexts, '\n' ∉ text.toList := by
  rw [← newlines_eq_zero_iff, newlines_lineText, Text.newlines_join_eq_zero_iff]

end Issue

/-! ## Reports -/

/-- A report with one line for every issue: as many newlines as issues, and in each issue's place
its severity and text. -/
structure OneLineEach (issues : List Issue) (report : String) : Prop where
  newlines_eq : newlines report = issues.length
  line_eq : ∀ (i : Nat) (issue : Issue), issues[i]? = some issue →
    (Text.lines report)[i]? = some issue.lineText

/-- Lines that end with a newline each are one line for every issue exactly if no issue's line has
a newline of its own. -/
theorem oneLineEach_iff {issues : List Issue} :
    OneLineEach issues (String.join (issues.map fun issue => issue.lineText ++ "\n")) ↔
      ∀ issue ∈ issues, '\n' ∉ issue.lineText.toList := by
  have hmap : issues.map (fun issue => issue.lineText ++ "\n") =
      (issues.map Issue.lineText).map (· ++ "\n") := by
    rw [List.map_map]
    rfl
  have hclean : (∀ issue ∈ issues, '\n' ∉ issue.lineText.toList) ↔
      ∀ text ∈ issues.map Issue.lineText, '\n' ∉ text.toList := by
    rw [List.forall_mem_map]
  rw [hmap, hclean]
  constructor
  · intro hlines
    have hcount := hlines.newlines_eq
    rw [Text.newlines_join_lines, List.length_map] at hcount
    exact Text.newlines_join_eq_zero_iff.1 (by omega)
  · intro hnone
    refine ⟨?_, fun i issue hi => ?_⟩
    · rw [Text.newlines_join_lines, Text.newlines_join_eq_zero_iff.2 hnone, List.length_map,
        Nat.add_zero]
    · have hline : (issues.map Issue.lineText)[i]? = some issue.lineText := by
        rw [List.getElem?_map, hi, Option.map_some]
      rw [Text.lines_join_lines hnone,
        List.getElem?_append_left (List.getElem?_eq_some_iff.1 hline).1, hline]

/-- A compact report without colour is a line for every issue, on a stream that never fails. -/
theorem output_lint_compact (output : StoryOutput) (config : Config) (sink : Sink)
    (hcapacity : sink.capacity = none) (hflush : sink.failsFlush = false)
    (hcolor : config.color.enabledFor sink.terminal = false) :
    (lint output { config with compact := true } sink).sink.output =
      sink.output ++ String.join ((output.classification config.policy).issues.map fun issue =>
        issue.lineText ++ "\n") := by
  simp only [output_lint _ _ hcapacity hflush, hcolor, StoryOutput.reportText,
    Issue.join_reportTexts, Issue.reportText_compact]
  simp only [Sink.closing, Bool.false_eq_true, if_false, String.append_empty]
  rfl

/-- On a stream that never fails, a compact report without colour has a newline for every issue
and those that stand in the story's own texts. It has one line for every issue, with the issue's
severity and text, exactly if these texts have none. -/
theorem lint_compact_lines_iff (output : StoryOutput) (config : Config) (sink : Sink)
    (hcapacity : sink.capacity = none) (hflush : sink.failsFlush = false)
    (hcolor : config.color.enabledFor sink.terminal = false) :
    let issues := (output.classification config.policy).issues
    ∃ report,
      (lint output { config with compact := true } sink).sink.output = sink.output ++ report ∧
        newlines report =
          issues.length + newlines (String.join (issues.flatMap Issue.ownTexts)) ∧
        (OneLineEach issues report ↔
          ∀ issue ∈ issues, ∀ text ∈ issue.ownTexts, '\n' ∉ text.toList) := by
  intro issues
  refine ⟨_, output_lint_compact output config sink hcapacity hflush hcolor, ?_, ?_⟩
  · have hlines := Text.newlines_join_lines (issues.map Issue.lineText)
    rw [List.map_map, List.length_map, Issue.newlines_join_lineText] at hlines
    exact hlines
  · rw [oneLineEach_iff]
    exact forall₂_congr fun issue _ => issue.newline_notMem_lineText_iff

/-- A document with a dead link to a target. -/
def linkDocument (target : String) : Json :=
  .object [("warnings", .array
    [.object [("kind", .text "dead-link"), ("detail", .text target)]])]

/-- A story with a dead link to a target. -/
def linkOutput (target : String) : StoryOutput :=
  { result := .story { codeMap := {} }
    warnings := [{ kind := .deadLink, detail := some target }] }

/-- A document with one dead link is read as its result. -/
theorem read_linkDocument (target : String) :
    Dump.read none (linkDocument target) = .ok (linkOutput target) :=
  Dump.read_eq_ok_iff.2 <| .story (.missing rfl rfl)
    (.given rfl <| .cons (.entry rfl (.given rfl) (.absent rfl) (.absent rfl)) .nil)
    (.absent rfl) (.absent rfl) rfl (.absent rfl)

/-- The result of a document with one dead link has one issue. -/
theorem issues_linkOutput (target : String) :
    ((linkOutput target).classification {}).issues =
      [.warning { kind := .deadLink, detail := some target } false] :=
  List.perm_singleton.1 (Order.arranged_sort Issue.coherent_less _).perm

/-- A dead link whose target has no newline is reported in one line. -/
theorem lint_compact_one_line :
    Dump.read none (linkDocument "Celler") = .ok (linkOutput "Celler") ∧
      ∃ report, (lint (linkOutput "Celler") { compact := true, color := .never } {}).sink.output =
          "" ++ report ∧
        OneLineEach [.warning { kind := .deadLink, detail := some "Celler" } false] report := by
  obtain ⟨report, hreport, -, hlines⟩ :=
    lint_compact_lines_iff (linkOutput "Celler") { color := .never } {} rfl rfl rfl
  refine ⟨read_linkDocument _, report, hreport, ?_⟩
  rw [← issues_linkOutput]
  refine hlines.2 ?_
  rw [issues_linkOutput]
  decide

/-- A dead link whose target has a newline is reported in two lines. -/
theorem lint_compact_broken_detail :
    Dump.read none (linkDocument "a\nb") = .ok (linkOutput "a\nb") ∧
      ¬ OneLineEach ((linkOutput "a\nb").classification {}).issues
        (lint (linkOutput "a\nb") { compact := true, color := .never } {}).sink.output := by
  refine ⟨read_linkDocument _, fun hlines => ?_⟩
  have hreport := output_lint_compact (linkOutput "a\nb") { color := .never } {} rfl rfl rfl
  rw [hreport, String.empty_append, oneLineEach_iff, issues_linkOutput] at hlines
  exact hlines _ List.mem_cons_self (by decide)

end StoryLint
