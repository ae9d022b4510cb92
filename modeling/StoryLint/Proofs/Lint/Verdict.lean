import StoryLint.Proofs.Dump.Format
import StoryLint.Proofs.Issue.Policy
import StoryLint.Proofs.Issue.Report
import StoryLint.Proofs.Lint.Report

/-!
# The verdict on a story

Whether a story fails is found out while its warnings and errors are classified, before they are
sorted, and the severities in the report are found out again from the issues that are left.
`lint_verdict` is the main result: both agree on every story that a document states, so that
linting fails exactly if it reports an error, and gives the story if it does not. A document
states a story wherever it states no errors (`Dump.exists_story_iff`).
-/

namespace StoryLint

/-- A document states a story exactly if it states no errors. -/
theorem Dump.exists_story_iff {source : Option String} {document : Json} {output : StoryOutput}
    (hread : Dump.read source document = .ok output) :
    (∃ story, output.result = .story story) ↔ output.result.errorList = [] := by
  cases Dump.read_eq_ok_iff.1 hread with
  | story => simp [StoryResult.errorList]
  | errors _ _ _ hsome => simp [StoryResult.errorList, hsome]

namespace StoryOutput

variable {output : StoryOutput} {policy : Policy}

/-- What makes an issue of a report an error: it is one of the story, or a warning that is denied
and not ignored. -/
theorem exists_severity_error_iff :
    (∃ issue ∈ (output.classification policy).issues, issue.severity = .error) ↔
      output.result.errorList ≠ [] ∨
        ∃ w ∈ output.warnings, policy.allows w.name = false ∧ policy.denies w.name = true := by
  constructor
  · intro hexists
    obtain ⟨issue, hissue, hsevere⟩ := hexists
    rcases mem_classification_iff.1 hissue with ⟨e, he, rfl⟩ | ⟨w, hw, hallows, rfl⟩
    · exact .inl (List.ne_nil_of_mem he)
    · exact .inr ⟨w, hw, hallows, by simpa [Issue.severity] using hsevere⟩
  · intro hcause
    rcases hcause with hsome | ⟨w, hw, hallows, hdenies⟩
    · obtain ⟨e, he⟩ := List.exists_mem_of_ne_nil _ hsome
      exact ⟨.error e, mem_classification_iff.2 (.inl ⟨e, he, rfl⟩), rfl⟩
    · have hissue := mem_classification_iff.2 (.inr ⟨w, hw, hallows, rfl⟩)
      rw [hdenies] at hissue
      exact ⟨.warning w true, hissue, rfl⟩

/-- The story that a document states fails exactly if an issue of its report is an error. -/
theorem fails_iff_exists_error {source : Option String} {document : Json}
    (hread : Dump.read source document = .ok output) :
    output.fails policy = true ↔
      ∃ issue ∈ (output.classification policy).issues, issue.severity = .error := by
  have hstory : (∃ errors map, output.result = .errors errors map) ↔
      output.result.errorList ≠ [] := by
    rw [← not_iff_not, not_not, ← Dump.exists_story_iff hread]
    cases output.result <;> simp
  rw [exists_severity_error_iff, ← hstory, or_comm]
  exact Classification.isFailure_iff

end StoryOutput

/-- On a stream that never fails, linting reports all issues and fails exactly if one of them is
an error, with the number of issues; there is one exactly if the document has an error, or a
warning that is denied and not allowed. Otherwise it gives the story, which is there whenever the
classification says that nothing failed. Neither the form of the report nor its colour takes part
in the outcome. -/
theorem lint_verdict {source : Option String} {document : Json} {output : StoryOutput}
    (hread : Dump.read source document = .ok output) (config : Config) (sink : Sink)
    (hcapacity : sink.capacity = none) (hflush : sink.failsFlush = false) :
    let run := lint output config sink
    let colored := config.color.enabledFor sink.terminal
    let report := Issue.reportText colored config.compact (.ofResult output.result)
    let c := output.classification config.policy
    let failing := ∃ issue ∈ c.issues, issue.severity = .error
    run.sink.output = sink.output ++ String.join (c.issues.map report) ++ Sink.closing colored ∧
      ((∃ count, run.outcome = .error (.failed count)) ↔ failing) ∧
      (failing ↔ output.result.errorList ≠ [] ∨ ∃ w ∈ output.warnings,
        ¬ (Policy.everything ∈ config.policy.allowed ∨ w.name ∈ config.policy.allowed) ∧
          (Policy.everything ∈ config.policy.denied ∨ w.name ∈ config.policy.denied)) ∧
      (∀ count, run.outcome = .error (.failed count) → count = c.issues.length) ∧
      (¬ failing → ∃ story, output.result = .story story ∧ run.outcome = .ok story) ∧
      (c.isFailure = false → ∃ story, output.result = .story story) ∧
      ∀ (compact : Bool) (color : ColorChoice) (sink' : Sink), sink'.capacity = none →
        sink'.failsFlush = false →
          (lint output { config with compact, color } sink').outcome = run.outcome := by
  intro run colored report c failing
  have hfailing : output.fails config.policy = true ↔ failing :=
    StoryOutput.fails_iff_exists_error hread
  have houtcome : run.outcome = verdict output.result c :=
    outcome_lint output config hcapacity hflush
  refine ⟨?_, ?_, ?_, ?_, ?_, ?_, ?_⟩
  · rw [String.append_assoc, ← Issue.join_reportTexts]
    exact output_lint output config hcapacity hflush
  · rw [houtcome, ← hfailing]
    exact StoryOutput.exists_verdict_failed_iff
  · simp only [failing, c, StoryOutput.exists_severity_error_iff, ← Policy.allows_iff,
      ← Policy.denies_iff, Bool.not_eq_true]
  · intro count hcount
    have hfails : output.fails config.policy = true :=
      StoryOutput.exists_verdict_failed_iff.1 ⟨count, houtcome ▸ hcount⟩
    rw [houtcome, StoryOutput.verdict_of_fails hfails] at hcount
    cases hcount
    rfl
  · intro hnone
    rw [houtcome]
    exact StoryOutput.verdict_of_passes (Bool.eq_false_iff.2 (mt hfailing.1 hnone))
  · intro hpasses
    obtain ⟨story, hstory, -⟩ := StoryOutput.verdict_of_passes hpasses
    exact ⟨story, hstory⟩
  · intro compact color sink' hcapacity' hflush'
    rw [houtcome]
    exact outcome_lint output _ hcapacity' hflush'

/-- A document with a dead link. -/
def deadLinkDocument : Json :=
  .object [("warnings", .array [.object [("kind", .text "dead-link")]])]

/-- A story with a dead link. -/
def deadLinkOutput : StoryOutput :=
  { result := .story { codeMap := {} }, warnings := [{ kind := .deadLink }] }

/-- A dead link makes linting fail if every warning is denied, unless dead links are allowed. -/
theorem lint_verdict_dead_link :
    Dump.read none deadLinkDocument = .ok deadLinkOutput ∧
      (lint deadLinkOutput { policy := { denied := ["all"] } } {}).outcome = .error (.failed 1) ∧
      ∃ story, (lint deadLinkOutput
        { policy := { allowed := ["dead-link"], denied := ["all"] } } {}).outcome = .ok story := by
  have hread : Dump.read none deadLinkDocument = .ok deadLinkOutput :=
    Dump.read_eq_ok_iff.2 <| .story (.missing rfl rfl)
      (.given rfl <| .cons (.entry rfl (.absent rfl) (.absent rfl) (.absent rfl)) .nil)
      (.absent rfl) (.absent rfl) rfl (.absent rfl)
  refine ⟨hread, ?_, ?_⟩
  · obtain ⟨-, hfails, hcause, hcount, -⟩ :=
      lint_verdict hread { policy := { denied := ["all"] } } {} rfl rfl
    obtain ⟨count, houtcome⟩ := hfails.2 (hcause.2 (.inr ⟨{ kind := .deadLink }, by decide⟩))
    have hissues : (deadLinkOutput.classification { denied := ["all"] }).issues =
        [.warning { kind := .deadLink } true] :=
      List.perm_singleton.1 (Order.arranged_sort Issue.coherent_less _).perm
    rw [houtcome, hcount count houtcome, hissues]
    rfl
  · obtain ⟨-, -, hcause, -, hpasses, -⟩ := lint_verdict hread
      { policy := { allowed := ["dead-link"], denied := ["all"] } } {} rfl rfl
    obtain ⟨story, -, houtcome⟩ := hpasses (hcause.not.2 (by decide))
    exact ⟨story, houtcome⟩

end StoryLint
