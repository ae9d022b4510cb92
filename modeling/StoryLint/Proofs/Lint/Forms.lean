import StoryLint.Proofs.Dump.Contexts
import StoryLint.Proofs.Issue.Report
import StoryLint.Proofs.Lint.Report

/-!
# The two forms of a report

A report is compact, with one line for an issue, or rich, with a block for it. The position in a
compact line is counted along the text of the issue's context, the one in a block comes from the
line table of a file. `lint_forms_agree` is the main result: for a story that was read, both forms
go through the same issues in the same order, and each issue has the same severity, message and
place in both.
-/

namespace StoryLint

variable {output : StoryOutput} {config : Config} {sink : Sink} {issue : Issue}

/-- The line and the block of an issue say the same. -/
structure Issue.FormsAgree (files : StoryFiles) (issue : Issue) : Prop where
  placed : ∀ name position, issue.place? = some (name, position) →
    issue.line = issue.severity.label ++ ": " ++ name ++ ":" ++ position.text ++ ": " ++
        issue.message ++ "\n" ∧
      ∃ width rest, (issue.diagnostic files).render false files =
        issue.headline ++ "\n" ++
          (spaces width ++ "--> " ++ name ++ ":" ++ position.text ++ "\n") ++ rest
  unplaced : issue.place? = none →
    (issue.diagnostic files).render false files = issue.headline ++ "\n\n"
  location_iff : ∀ (name : String) (line column : Nat),
    Row.location .primary name line column ∈ (issue.diagnostic files).block files ↔
      issue.place? = some (name, { line, column })

/-- The two forms agree on an issue whose context lies in the files. -/
theorem Issue.formsAgree {files : StoryFiles}
    (hc : ∀ c ∈ issue.context, c.InMap files.codeMap) : issue.FormsAgree files where
  placed := by
    intro name position hplace
    refine ⟨?_, render_of_place hc hplace⟩
    simp [line, text_of_place hplace, String.append_assoc]
  unplaced := render_of_no_place
  location_iff := fun _ _ _ => mem_block_location_iff hc

/-- The place of an issue lies in the files of the story, if all its contexts do. -/
theorem StoryOutput.InMap.of_mem_classification (h : output.InMap) {policy : Policy}
    (hissue : issue ∈ (output.classification policy).issues) :
    ∀ c ∈ issue.context, c.InMap (StoryFiles.ofResult output.result).codeMap := by
  rw [codeMap_ofResult]
  obtain ⟨e, he, rfl⟩ | ⟨w, hw, denied, rfl⟩ := StoryOutput.mem_classification hissue
  · exact h.errors e he
  · exact h.warnings w hw

/-- Both forms of the report on a story that was read list the same issues in the same order, and
their lines and blocks agree on every one of them. -/
theorem lint_forms_agree {source : Option String} {document : Json}
    (hread : Dump.read source document = .ok output) (config : Config) (sink : Sink)
    (hcapacity : sink.capacity = none) (hflush : sink.failsFlush = false)
    (hcolor : config.color.enabledFor sink.terminal = false) :
    let files := StoryFiles.ofResult output.result
    let issues := (output.classification config.policy).issues
    (lint output { config with compact := true } sink).sink.output =
        sink.output ++ String.join (issues.map Issue.line) ∧
      (lint output { config with compact := false } sink).sink.output =
        sink.output ++
          String.join (issues.map fun issue => (issue.diagnostic files).render false files) ∧
      ∀ issue ∈ issues, issue.FormsAgree files := by
  refine ⟨?_, ?_, fun issue hissue => ?_⟩
  · simp only [output_lint _ _ hcapacity hflush, hcolor, StoryOutput.reportText,
      Issue.join_reportTexts, Issue.reportText_compact]
    simp [Sink.closing]
  · simp only [output_lint _ _ hcapacity hflush, hcolor, StoryOutput.reportText,
      Issue.join_reportTexts, Issue.reportText_rich]
    simp [Sink.closing]
  · exact Issue.formsAgree ((Dump.contexts_inMap hread).of_mem_classification hissue)

/-- An error on the second line of a file. -/
def secondLineError : ParseError :=
  { kind := .emptyName
    context := some ⟨some "a", "x\ny", .number 2, .number 3, by decide, by decide, by decide⟩ }

/-- A story with nothing but an error on the second line of a file. -/
def secondLineOutput : StoryOutput :=
  { result := .errors [secondLineError] { files := [⟨"a", "x\ny"⟩], names_nodup := by decide }
    warnings := [] }

/-- A document that states the error. -/
def secondLineDocument : Json :=
  .object
    [("files", .object [("a", .text "x\ny")]),
     ("errors", .array
       [.object [("kind", .text "empty-name"),
         ("context", .object [("file", .text "a"), ("start", .integer 2)])]])]

/-- Both forms place the error at line 2, column 1. -/
theorem lint_forms_agree_second_line :
    Dump.read none secondLineDocument = .ok secondLineOutput ∧
      (lint secondLineOutput { compact := true } {}).sink.output = "Error: a:2:1: " ++
        secondLineError.message ++ "\n" ∧
      ∃ width rest, (lint secondLineOutput {} {}).sink.output =
        "error[empty-name]: " ++ secondLineError.message ++ "\n" ++
          (spaces width ++ "--> a:2:1\n") ++ rest := by
  have hread : Dump.read none secondLineDocument = .ok secondLineOutput :=
    Dump.read_eq_ok_iff.2 <| .errors (.given rfl rfl) (.absent rfl)
      (.given rfl <| .cons (.entry rfl (.absent rfl)
        (.given rfl ⟨.file rfl rfl, .number rfl, .missing rfl⟩)) .nil) (by simp)
  have hissues : (secondLineOutput.classification {}).issues = [.error secondLineError] :=
    List.perm_singleton.1 (Order.arranged_sort Issue.coherent_less _).perm
  have hplace : (Issue.error secondLineError).place? = some ("a", { line := 2, column := 1 }) := by
    decide
  obtain ⟨hcompact, hrich, hagree⟩ := lint_forms_agree hread {} {} rfl rfl rfl
  rw [hissues] at hcompact hrich hagree
  obtain ⟨hline, width, rest, hblock⟩ := (hagree _ (by simp)).placed _ _ hplace
  refine ⟨hread, ?_, width, rest, ?_⟩
  · rw [hcompact, List.map_singleton, hline]
    rfl
  · have hheadline : (Issue.error secondLineError).headline =
        "error[empty-name]: " ++ secondLineError.message := rfl
    have hlocation : "--> " ++ ("a" ++ (":" ++
        (({ line := 2, column := 1 } : Position).text ++ "\n"))) = "--> a:2:1\n" := rfl
    simp only [hrich, List.map_singleton, hblock, hheadline, ← hlocation, String.join_cons,
      String.join_nil, String.append_assoc, String.append_empty, String.empty_append]

end StoryLint
