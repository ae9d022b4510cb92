import StoryLint.Lint
import StoryLint.Proofs.Issue.Order
import StoryLint.Proofs.Terminal.Sink

/-!
# What linting writes

Linting a story writes one text, its complete report with the reset at the end, and flushes the
stream. If the stream takes that text, the outcome is the verdict on the story; if not, it is the
fault of the stream.
-/

namespace StoryLint

/-- The files for a report are those of the result. -/
theorem codeMap_ofResult (result : StoryResult) :
    (StoryFiles.ofResult result).codeMap = result.codeMap := by
  cases result <;> rfl

namespace StoryOutput

/-- The issues of a story in the order of a report, and whether they make a run fail. -/
def classification (output : StoryOutput) (policy : Policy) : Classification :=
  (Classification.ofResult output.result output.warnings policy).sorted

/-- Whether a story fails under a policy. -/
def fails (output : StoryOutput) (policy : Policy) : Bool :=
  (output.classification policy).isFailure

/-- The texts of a report on a story. -/
def reportTexts (output : StoryOutput) (config : Config) (colored : Bool) : List String :=
  Issue.reportTexts colored config.compact (.ofResult output.result)
    (output.classification config.policy).issues

/-- The outcome of linting a story: the fault of the guard around its report, or the verdict. -/
def outcome (output : StoryOutput) (policy : Policy) : Option StreamFault → Except LintError Story
  | some fault => .error (.stream fault)
  | none => verdict output.result (output.classification policy)

/-- The log records of linting a story, by the fault of the guard around its report. -/
def records (output : StoryOutput) (policy : Policy) (fault : Option StreamFault) :
    List LogRecord :=
  let c := output.classification policy
  output.result.records ++ [c.record] ++ if fault.isNone then [reportRecord c.issues] else []

/-- The complete report on a story, with the reset of the colour at its end. -/
def reportText (output : StoryOutput) (config : Config) (colored : Bool) : String :=
  String.join (Issue.reportTexts colored config.compact (.ofResult output.result)
    (output.classification config.policy).issues) ++ Sink.closing colored

variable {output : StoryOutput} {policy : Policy}

/-- The issues of a report are the errors of the story, and the warnings that are not ignored, each
with its mark. -/
theorem mem_classification_iff {issue : Issue} :
    issue ∈ (output.classification policy).issues ↔
      (∃ e ∈ output.result.errorList, issue = .error e) ∨
        ∃ w ∈ output.warnings,
          policy.allows w.name = false ∧ issue = .warning w (policy.denies w.name) := by
  have hverdict : ∀ w, policy.verdict? w = some issue ↔
      policy.allows w.name = false ∧ issue = .warning w (policy.denies w.name) := by
    intro w
    cases hallows : policy.allows w.name <;> simp [Policy.verdict?, hallows, eq_comm]
  rw [classification, Classification.sorted, Issue.mem_sort]
  simp only [Classification.ofResult, List.mem_append, List.mem_filterMap, List.mem_map, hverdict,
    eq_comm (b := issue)]
  exact or_comm

/-- Every issue of a report is an error of the story, or a warning with a verdict. -/
theorem mem_classification {issue : Issue} (h : issue ∈ (output.classification policy).issues) :
    (∃ e ∈ output.result.errorList, issue = .error e) ∨
      ∃ w ∈ output.warnings, ∃ denied, issue = .warning w denied :=
  (mem_classification_iff.1 h).imp_right fun ⟨w, hw, _, hissue⟩ => ⟨w, hw, _, hissue⟩

/-- The verdict on a story that fails has no story in it. -/
theorem verdict_of_fails (h : output.fails policy = true) :
    verdict output.result (output.classification policy) =
      .error (.failed (output.classification policy).issues.length) := by
  unfold verdict
  cases output.result with
  | story s => exact if_pos h
  | errors list map => rfl

/-- There is a story wherever the verdict is not a failure. -/
theorem verdict_of_passes (h : output.fails policy = false) :
    ∃ story, output.result = .story story ∧
      verdict output.result (output.classification policy) = .ok story := by
  cases hresult : output.result with
  | story s => exact ⟨s, rfl, if_neg (by simpa [fails] using h)⟩
  | errors list map =>
      simp [fails, classification, Classification.sorted, Classification.ofResult, hresult] at h

/-- The verdict is a failure exactly for a story that fails. -/
theorem exists_verdict_failed_iff :
    (∃ count, verdict output.result (output.classification policy) = .error (.failed count)) ↔
      output.fails policy = true := by
  constructor
  · rintro ⟨count, hcount⟩
    rw [← Bool.not_eq_false]
    intro hpasses
    obtain ⟨story, -, hstory⟩ := verdict_of_passes hpasses
    simp [hstory] at hcount
  · intro hfails
    exact ⟨_, verdict_of_fails hfails⟩

end StoryOutput

variable {output : StoryOutput} {config : Config} {sink : Sink}

/-- Linting is a report in a guard, whose fault gives the outcome and the log records. -/
theorem lintOn_eq {σ : Type} {device : Device σ} {s after : σ} {fault : Option StreamFault}
    (h : device.guarded (config.color.enabledFor (device.terminal s)) id (device.writeAll
      (output.reportTexts config (config.color.enabledFor (device.terminal s)))) s =
        (fault, after)) :
    lintOn device output config s =
      (output.outcome config.policy fault, after, output.records config.policy fault) := by
  simp only [StoryOutput.reportTexts, StoryOutput.classification] at h
  unfold lintOn
  simp only [h]
  cases fault with
  | some fault => simp [StoryOutput.outcome, StoryOutput.records, StoryOutput.classification]
  | none => rfl

/-- Linting writes the report and flushes, and what comes of that gives the outcome. -/
theorem lint_eq (output : StoryOutput) (config : Config) (sink : Sink) :
    let written :=
      Sink.writeFlushed (output.reportText config (config.color.enabledFor sink.terminal)) sink
    lint output config sink =
      { outcome := output.outcome config.policy written.1
        sink := written.2
        records := output.records config.policy written.1 } := by
  intro written
  have hguarded := Sink.guarded_writeAll (config.color.enabledFor sink.terminal)
    (output.reportTexts config (config.color.enabledFor sink.terminal)) sink
  unfold lint
  rw [lintOn_eq hguarded]
  rfl

/-- A report that is not written and flushed leaves a fault of the stream. -/
theorem lint_of_report_fault
    (h : sink.failsFlush = true ∨
      ¬ sink.Fits (output.reportText config (config.color.enabledFor sink.terminal))) :
    ∃ fault, (fault = .inputOutput ∨ fault = sink.onFull) ∧
      (lint output config sink).outcome = .error (.stream fault) := by
  simp only [lint_eq, Sink.writeFlushed_fault]
  by_cases hflush : sink.failsFlush = true
  · exact ⟨.inputOutput, .inl rfl, by rw [if_pos hflush, StoryOutput.outcome]⟩
  · refine ⟨sink.onFull, .inr rfl, ?_⟩
    rw [if_neg hflush, Sink.write_of_not_fits (h.resolve_left hflush), StoryOutput.outcome]

/-- A report that does not fit leaves the fault of the full stream. -/
theorem lint_of_not_fits (hflush : sink.failsFlush = false)
    (h : ¬ sink.Fits (output.reportText config (config.color.enabledFor sink.terminal))) :
    lint output config sink =
      { outcome := .error (.stream sink.onFull)
        sink := (Sink.writeFlushed
          (output.reportText config (config.color.enabledFor sink.terminal)) sink).2
        records := output.records config.policy (some sink.onFull) } := by
  have hfault : (Sink.writeFlushed
      (output.reportText config (config.color.enabledFor sink.terminal)) sink).1 =
        some sink.onFull := by
    rw [Sink.writeFlushed_fault, hflush, Sink.write_of_not_fits h]
    rfl
  simp only [lint_eq, hfault, StoryOutput.outcome]

/-- A report that is written and flushed leaves the verdict, with the report in the stream. -/
theorem lint_of_fits (hflush : sink.failsFlush = false)
    (h : sink.Fits (output.reportText config (config.color.enabledFor sink.terminal))) :
    lint output config sink =
      { outcome := verdict output.result (output.classification config.policy)
        sink := sink.advance (output.reportText config (config.color.enabledFor sink.terminal)) 1
        records := output.records config.policy none } := by
  rw [lint_eq, Sink.writeFlushed_of_fits h hflush]
  rfl

/-- On a stream that never fails the verdict is the outcome. -/
theorem outcome_lint (output : StoryOutput) (config : Config) (hcapacity : sink.capacity = none)
    (hflush : sink.failsFlush = false) :
    (lint output config sink).outcome =
      verdict output.result (output.classification config.policy) := by
  rw [lint_of_fits hflush (Sink.fits_of_unlimited hcapacity)]

/-- Linting adds its report to a stream that never fails. -/
theorem output_lint (output : StoryOutput) (config : Config) (hcapacity : sink.capacity = none)
    (hflush : sink.failsFlush = false) :
    (lint output config sink).sink.output =
      sink.output ++ output.reportText config (config.color.enabledFor sink.terminal) := by
  rw [lint_of_fits hflush (Sink.fits_of_unlimited hcapacity), Sink.advance_output]

end StoryLint
