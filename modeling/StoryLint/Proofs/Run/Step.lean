import StoryLint.Run
import StoryLint.Proofs.Lint.Report

/-!
# One story of a run

A run writes for every story its report and, behind the report of a story that fails, a line that
says so: `StoryOutput.runText`. One story is one step of a run. The step lemmas follow the three
places at which the stream can give out: the report, the line behind it, and nowhere.

`inputs_of_error`, `inputs_of_done` and `inputs_of_next` say what a step is for the whole run.
-/

namespace StoryLint

/-- The line behind the report of a story that fails. -/
def Run.failureLine : String :=
  "Failed due to previous errors\n"

namespace StoryOutput

variable {output : StoryOutput} {config : Config} {colored : Bool}

/-- What a run writes for a story. -/
def runText (output : StoryOutput) (config : Config) (colored : Bool) : String :=
  output.reportText config colored ++
    if output.fails config.policy then Run.failureLine else ""

/-- A story that fails has a line behind its report. -/
theorem runText_of_fails (h : output.fails config.policy = true) :
    output.runText config colored = output.reportText config colored ++ Run.failureLine := by
  rw [runText, if_pos h]

/-- A story that passes has its report only. -/
theorem runText_of_passes (h : output.fails config.policy = false) :
    output.runText config colored = output.reportText config colored := by
  simp [runText, h]

end StoryOutput

namespace Run

/-- What a run writes for stories. -/
def text (config : Config) (colored : Bool) (outputs : List StoryOutput) : String :=
  String.join (outputs.map (·.runText config colored))

variable {host : Host} {config : Config} {sink : Sink} {output : StoryOutput}
  {rest : List StoryOutput} {input : String} {names : List String} {colored : Bool}
  {status : Status}

/-- Without stories there is nothing to write. -/
@[simp] theorem text_nil : text config colored [] = "" := by
  simp [text]

/-- The text of the first story comes first. -/
@[simp] theorem text_cons :
    text config colored (output :: rest) =
      output.runText config colored ++ text config colored rest := by
  simp [text]

/-! ## The failure line -/

/-- A failure line that fits is written and flushed. -/
theorem announceFailure_of_fits (hflush : sink.failsFlush = false) (h : sink.Fits failureLine)
    (count : Nat) : announceFailure count sink = (none, sink.advance failureLine 1) := by
  have hwrite : Sink.write ((LintError.failed count).message ++ "\n") sink =
      (none, sink.advance failureLine 0) := Sink.write_of_fits h
  simp [announceFailure, hwrite, Sink.flush, Sink.advance, hflush]

/-- A failure line that does not fit is a fault of the stream. -/
theorem announceFailure_of_not_fits (h : ¬ sink.Fits failureLine) (count : Nat) :
    announceFailure count sink = (some sink.onFull, (Sink.write failureLine sink).2) := by
  have hline : (LintError.failed count).message ++ "\n" = failureLine := rfl
  have hwrite : (Sink.write failureLine sink).1 = some sink.onFull := Sink.write_of_not_fits h
  rw [announceFailure, hline, ← Prod.eta (Sink.write _ sink), hwrite]

/-! ## One story -/

/-- What a fault of a report means for the run: an interrupt leaves it, and any other fault breaks
it. -/
def reportFault : StreamFault → Except Escape Status
  | .interrupted => .error (.stream .interrupted)
  | _ => .ok .broken

/-- A fault of the stream in a report ends the step, with the stream as the report left it. -/
theorem lintStep_of_stream_fault {fault : StreamFault} (input : String)
    (h : (lint output config sink).outcome = .error (.stream fault)) :
    (lintStep input config output sink).1 = .done (reportFault fault) ∧
      (lintStep input config output sink).2.1 = (lint output config sink).sink := by
  cases fault <;> simp [lintStep, h, reportFault]

/-- A report that is not written and flushed breaks the run. -/
theorem lintStep_of_report_fault (hfull : sink.onFull ≠ .interrupted)
    (h : sink.failsFlush = true ∨
      ¬ sink.Fits (output.reportText config (config.color.enabledFor sink.terminal))) :
    (lintStep input config output sink).1 = .done (.ok .broken) := by
  obtain ⟨fault, hfault, houtcome⟩ := lint_of_report_fault h
  have hfault : fault ≠ .interrupted := by
    obtain rfl | rfl := hfault
    · simp
    · exact hfull
  rw [(lintStep_of_stream_fault input houtcome).1]
  cases fault <;> simp_all [reportFault]

/-- The fault of a failure line that does not fit is what leaves the run. -/
theorem lintStep_of_line_fault (input : String) (hflush : sink.failsFlush = false)
    (hfails : output.fails config.policy = true)
    (hreport : sink.Fits (output.reportText config (config.color.enabledFor sink.terminal)))
    (hline : ¬ sink.Fits (output.runText config (config.color.enabledFor sink.terminal))) :
    (lintStep input config output sink).1 = .done (.error (.stream sink.onFull)) ∧
      (lintStep input config output sink).2.1 = (Sink.write failureLine (sink.advance
        (output.reportText config (config.color.enabledFor sink.terminal)) 1)).2 := by
  rw [StoryOutput.runText_of_fails hfails, Sink.fits_append 1] at hline
  have hfault := announceFailure_of_not_fits (fun h => hline ⟨hreport, h⟩)
    (output.classification config.policy).issues.length
  simp only [lintStep, lint_of_fits hflush hreport, StoryOutput.verdict_of_fails hfails, hfault,
    Sink.advance_onFull, and_self]

/-- A story whose texts all fit lets the run go on, with records that do not depend on the
stream. -/
theorem lintStep_of_fits (input : String) (config : Config) (output : StoryOutput) :
    ∃ flushes records, ∀ sink : Sink, sink.failsFlush = false →
      sink.Fits (output.runText config (config.color.enabledFor sink.terminal)) →
      lintStep input config output sink =
        (.next (output.fails config.policy),
          sink.advance (output.runText config (config.color.enabledFor sink.terminal)) flushes,
          records) := by
  by_cases hfails : output.fails config.policy = true
  · refine ⟨2, output.records config.policy none, fun sink hflush h => ?_⟩
    rw [StoryOutput.runText_of_fails hfails] at *
    obtain ⟨hreport, hline⟩ := (Sink.fits_append 1).1 h
    simp only [lintStep, lint_of_fits hflush hreport, StoryOutput.verdict_of_fails hfails,
      announceFailure_of_fits (by simpa using hflush) hline, Sink.advance_advance, hfails]
  · have hpasses := Bool.eq_false_iff.2 hfails
    obtain ⟨story, -, hverdict⟩ := StoryOutput.verdict_of_passes hpasses
    refine ⟨1, output.records config.policy none ++ [passedRecord input story],
      fun sink hflush h => ?_⟩
    rw [StoryOutput.runText_of_passes hpasses] at *
    simp only [lintStep, lint_of_fits hflush h, hverdict, hpasses]

/-- A story whose texts do not all fit ends the run: the stream has stored what fits, and an
interrupt leaves the run. -/
theorem lintStep_of_not_fits (input : String) (hflush : sink.failsFlush = false)
    (h : ¬ sink.Fits (output.runText config (config.color.enabledFor sink.terminal))) :
    ∃ outcome, (lintStep input config output sink).1 = .done outcome ∧
      (lintStep input config output sink).2.1.output = (Sink.write
        (output.runText config (config.color.enabledFor sink.terminal)) sink).2.output ∧
      (sink.onFull = .interrupted → outcome = .error (.stream .interrupted)) := by
  by_cases hreport : sink.Fits (output.reportText config (config.color.enabledFor sink.terminal))
  · have hfails : output.fails config.policy = true := by
      rw [← Bool.not_eq_false]
      intro hpasses
      exact h (by rwa [StoryOutput.runText_of_passes hpasses])
    obtain ⟨hdone, hafter⟩ := lintStep_of_line_fault input hflush hfails hreport h
    refine ⟨_, hdone, ?_, fun hfull => by rw [hfull]⟩
    rw [hafter, StoryOutput.runText_of_fails hfails, Sink.output_write_append_of_fits 1 hreport]
  · have hlint := lint_of_not_fits hflush hreport
    obtain ⟨hdone, hafter⟩ := lintStep_of_stream_fault input (congrArg LintRun.outcome hlint)
    refine ⟨_, hdone, ?_, fun hfull => by rw [hfull, reportFault]⟩
    rw [hafter, hlint, StoryOutput.runText, Sink.write_append_of_not_fits hreport,
      Sink.output_writeFlushed]

/-! ## The whole run -/

/-- Without inputs a run keeps its status. -/
@[simp] theorem inputs_nil :
    inputs host config status sink [] = { outcome := .ok status, sink, records := [] } := rfl

/-- An input that does not load ends the run. -/
theorem inputs_of_error {e : Dump.LoadError} (config : Config) (status : Status) (sink : Sink)
    (names : List String) (hload : Dump.load host input = .error e) :
    inputs host config status sink (input :: names) =
      { outcome := (loadOutcome input e).1
        sink
        records := Dump.loadRecords host input ++ (loadOutcome input e).2 } := by
  unfold inputs
  simp only [hload]

/-- A step that ends the run leaves its outcome and its stream. -/
theorem inputs_of_done {outcome : Except Escape Status} (hload : Dump.load host input = .ok output)
    (hstep : (lintStep input config output sink).1 = .done outcome) :
    (inputs host config status sink (input :: names)).outcome = outcome ∧
      (inputs host config status sink (input :: names)).sink =
        (lintStep input config output sink).2.1 := by
  cases h : lintStep input config output sink with
  | mk step after =>
      obtain rfl : step = .done outcome := by simpa [h] using hstep
      unfold inputs
      simp only [hload, h, and_self]

/-- A step after which the run goes on leaves the rest to the inputs behind it. -/
theorem inputs_of_next {failed : Bool} {after : Sink} {records : List LogRecord}
    (hload : Dump.load host input = .ok output)
    (hstep : lintStep input config output sink = (.next failed, after, records)) :
    inputs host config status sink (input :: names) =
      { outcome := (inputs host config (if failed then .failed else status) after names).outcome
        sink := (inputs host config (if failed then .failed else status) after names).sink
        records := Dump.loadRecords host input ++ records ++
          (inputs host config (if failed then .failed else status) after names).records } := by
  -- The rest of the run is named first: unfolding would go on into it.
  generalize hrest :
    inputs host config (if failed then .failed else status) after names = run
  unfold inputs
  simp only [hload, hstep, hrest]

end Run

end StoryLint
