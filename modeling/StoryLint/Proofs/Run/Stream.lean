import StoryLint.Proofs.Run.Loading
import Mathlib.Data.List.Forall2

/-!
# Runs on streams that fail

Read `StoryLint.Proofs.Run.Loading` first. `start_outcome` is the main result, for inputs that all
load: the run has a status unless the first text that does not fit is the line behind the report
of a story that fails. A line that does not fit is not caught, and its fault escapes
(`start_full_in_failure_line`). Every other fault of a write or a flush makes the status `broken`,
and without a fault the stories decide.
-/

namespace StoryLint

namespace Run

/-- The inputs are dumps that load, with these stories in them. -/
def Loads (host : Host) (inputs : List String) (outputs : List StoryOutput) : Prop :=
  List.Forall₂ (fun input output => Dump.load host input = .ok output) inputs outputs

/-- A write or a flush of the run fails: not everything fits, or the stream cannot be flushed. -/
def Disturbed (config : Config) (sink : Sink) (outputs : List StoryOutput) : Prop :=
  ¬ sink.Fits (text config (config.color.enabledFor sink.terminal) outputs) ∨
    sink.failsFlush = true ∧ outputs ≠ []

/-- The stream is full within the line behind the report of a story that fails. -/
def FullInFailureLine (config : Config) (sink : Sink) (outputs : List StoryOutput) : Prop :=
  sink.failsFlush = false ∧ ∃ before output after, outputs = before ++ output :: after ∧
    output.fails config.policy = true ∧
    sink.Fits (text config (config.color.enabledFor sink.terminal) before ++
      output.reportText config (config.color.enabledFor sink.terminal)) ∧
    ¬ sink.Fits (text config (config.color.enabledFor sink.terminal) before ++
      output.runText config (config.color.enabledFor sink.terminal))

variable {host : Host} {config : Config} {sink : Sink} {output : StoryOutput}
  {outputs rest : List StoryOutput} {input : String} {names : List String} {colored : Bool}
  {status : Status}

/-- A story whose texts fit does not decide whether the run is disturbed. -/
theorem disturbed_cons (flushes : Nat) (hflush : sink.failsFlush = false)
    (h : sink.Fits (output.runText config (config.color.enabledFor sink.terminal))) :
    Disturbed config sink (output :: rest) ↔
      Disturbed config
        (sink.advance (output.runText config (config.color.enabledFor sink.terminal)) flushes)
        rest := by
  simp [Disturbed, Sink.fits_append flushes, h, hflush]

/-- A first story that fits leaves the question to the others, on the stream behind its text. -/
theorem fullInFailureLine_cons (flushes : Nat)
    (h : sink.Fits (output.runText config (config.color.enabledFor sink.terminal))) :
    FullInFailureLine config sink (output :: rest) ↔
      FullInFailureLine config
        (sink.advance (output.runText config (config.color.enabledFor sink.terminal)) flushes)
        rest := by
  simp only [FullInFailureLine, Sink.advance_failsFlush, Sink.advance_terminal]
  refine and_congr_right fun _ => ?_
  -- The line that does not fit belongs to a later story, since all of the first one fits.
  constructor
  · rintro ⟨before, output', after, hsplit, hfails, hreport, hline⟩
    cases before with
    | nil =>
        obtain ⟨rfl, rfl⟩ := List.cons.inj hsplit
        exact (hline (by simpa using h)).elim
    | cons first before =>
        obtain ⟨rfl, rfl⟩ := List.cons.inj hsplit
        rw [text_cons, String.append_assoc, Sink.fits_append flushes] at hreport hline
        exact ⟨before, output', after, rfl, hfails, hreport.2, fun hfits => hline ⟨h, hfits⟩⟩
  · rintro ⟨before, output', after, rfl, hfails, hreport, hline⟩
    refine ⟨output :: before, output', after, rfl, hfails, ?_, ?_⟩
    · rw [text_cons, String.append_assoc, Sink.fits_append flushes]
      exact ⟨h, hreport⟩
    · rw [text_cons, String.append_assoc, Sink.fits_append flushes]
      exact fun hfits => hline hfits.2

/-- A stream that gives out within the first report disturbs the run, in no failure line. -/
theorem disturbed_of_report_fault (rest : List StoryOutput)
    (h : sink.failsFlush = true ∨
      ¬ sink.Fits (output.reportText config (config.color.enabledFor sink.terminal))) :
    Disturbed config sink (output :: rest) ∧ ¬ FullInFailureLine config sink (output :: rest) := by
  constructor
  · obtain hflush | hreport := h
    · exact .inr ⟨hflush, List.cons_ne_nil _ _⟩
    · refine .inl fun hfits => hreport ?_
      rw [text_cons, StoryOutput.runText, String.append_assoc, Sink.fits_append 0] at hfits
      exact hfits.1
  · rintro ⟨hflush, before, output', after, hsplit, -, hfits, -⟩
    refine h.elim (by simp [hflush]) fun hreport => ?_
    cases before with
    | nil =>
        obtain ⟨rfl, rfl⟩ := List.cons.inj hsplit
        exact hreport (by simpa using hfits)
    | cons first before =>
        obtain ⟨rfl, rfl⟩ := List.cons.inj hsplit
        rw [text_cons, StoryOutput.runText, String.append_assoc, String.append_assoc,
          Sink.fits_append 0] at hfits
        exact hreport hfits.1

/-- A stream that takes the first report but not all that is written for the story is full in the
failure line. -/
theorem fullInFailureLine_of_line_fault (rest : List StoryOutput)
    (hflush : sink.failsFlush = false)
    (hreport : sink.Fits (output.reportText config (config.color.enabledFor sink.terminal)))
    (hline : ¬ sink.Fits (output.runText config (config.color.enabledFor sink.terminal))) :
    output.fails config.policy = true ∧ FullInFailureLine config sink (output :: rest) := by
  have hfails : output.fails config.policy = true := by
    rw [← Bool.not_eq_false]
    intro hpasses
    exact hline (by rwa [StoryOutput.runText_of_passes hpasses])
  exact ⟨hfails, hflush, [], output, rest, rfl, hfails, by simpa using hreport,
    by simpa using hline⟩

open scoped Classical in
/-- Inputs that load, one after the other: the first text that does not fit decides, and without
one the stories do. -/
theorem inputs_outcome (hload : Loads host names outputs) (hfull : sink.onFull ≠ .interrupted) :
    (inputs host config status sink names).outcome =
      if FullInFailureLine config sink outputs then .error (.stream sink.onFull)
      else if Disturbed config sink outputs then .ok .broken
      else .ok (if outputs.any (·.fails config.policy) then .failed else status) := by
  induction hload generalizing sink status with
  | nil =>
      unfold inputs
      simp [FullInFailureLine, Disturbed]
  | @cons input output names outputs hinput hrest ih =>
      -- The stream gives out in the report, in the line behind it, or not at this story.
      by_cases hbroken : sink.failsFlush = true ∨
          ¬ sink.Fits (output.reportText config (config.color.enabledFor sink.terminal))
      · obtain ⟨hdisturbed, hline⟩ := disturbed_of_report_fault outputs hbroken
        rw [if_neg hline, if_pos hdisturbed]
        exact (inputs_of_done hinput (lintStep_of_report_fault hfull hbroken)).1
      obtain ⟨hflush, hreport⟩ := not_or.1 hbroken
      rw [Bool.not_eq_true] at hflush
      rw [not_not] at hreport
      by_cases hrun : sink.Fits (output.runText config (config.color.enabledFor sink.terminal))
      · obtain ⟨flushes, records, hstep⟩ := lintStep_of_fits input config output
        rw [inputs_of_next hinput (hstep sink hflush hrun), ih (by simpa using hfull)]
        simp only [← fullInFailureLine_cons flushes hrun, ← disturbed_cons flushes hflush hrun,
          Sink.advance_onFull, List.any_cons]
        by_cases hfails : output.fails config.policy = true
        · simp [hfails]
        · simp [hfails]
      · obtain ⟨hfails, hfullLine⟩ :=
          fullInFailureLine_of_line_fault outputs hflush hreport hrun
        rw [if_pos hfullLine]
        exact (inputs_of_done hinput (lintStep_of_line_fault _ hflush hfails hreport hrun).1).1

/-- Inputs that load have their stories for the whole text of the run. -/
theorem wholeText_of_loads (hload : Loads host names outputs) (terminal : Option Bool) :
    wholeText host config terminal names =
      text config (config.color.enabledFor terminal) outputs := by
  induction hload with
  | nil => simp
  | cons hinput hrest ih => rw [wholeText_of_ok _ hinput, ih, text_cons]

/-- The outcome of a run is that of its inputs. -/
theorem outcome_start (host : Host) (config : Config) (sink : Sink) :
    (start host config sink).outcome =
      (inputs host config .passed sink config.inputs).outcome := rfl

open scoped Classical in
/-- A run over inputs that load has a status unless the first text that does not fit is the line
behind the report of a story that fails: the fault of that line escapes. Any other fault of a
write or a flush breaks the run, and without a fault the stories decide. A run on a stream that
never fails writes everything. -/
theorem start_outcome (sink : Sink) (hload : Loads host config.inputs outputs)
    (hfull : sink.onFull ≠ .interrupted) :
    (start host config sink).outcome =
        (if FullInFailureLine config sink outputs then .error (.stream sink.onFull)
        else if Disturbed config sink outputs then .ok .broken
        else .ok (if outputs.any (·.fails config.policy) then .failed else .passed)) ∧
      (start host config { sink with capacity := none, failsFlush := false }).sink.output =
        sink.output ++ text config (config.color.enabledFor sink.terminal) outputs := by
  refine ⟨inputs_outcome hload hfull, ?_⟩
  rw [start, output_inputs _ _ rfl, wholeText_of_loads hload, Sink.write_of_unlimited rfl,
    Sink.advance_output]

/-- The bytes of a dump with one error, a passage header with an empty name. -/
def emptyNameDump : List UInt8 :=
  [123, 34, 101, 114, 114, 111, 114, 115, 34, 58, 91, 123, 34, 107, 105, 110, 100, 34, 58, 34,
   101, 109, 112, 116, 121, 45, 110, 97, 109, 101, 34, 125, 93, 125]

/-- A host with this dump at every path. -/
def emptyNameHost : Host :=
  .ofFiles fun _ => .ok emptyNameDump

/-- What the dump with one error holds. -/
def emptyNameOutput : StoryOutput :=
  { result := .errors [{ kind := .emptyName }] {}, warnings := [] }

/-- A compact report on one input. -/
def compactConfig : Config :=
  { inputs := ["a"], compact := true, color := .never }

/-- The dump with one error is loaded. -/
theorem load_emptyNameDump :
    Dump.load emptyNameHost "a" = .ok emptyNameOutput := by
  decide +kernel

/-- The compact report on the dump with one error is one line. -/
theorem reportText_emptyNameOutput :
    emptyNameOutput.reportText compactConfig false =
      "Error: Passage header has an empty name\n" := by
  decide +kernel

/-- A stream with room for all but the last character of the report breaks the run. -/
theorem start_outcome_full_in_report :
    Loads emptyNameHost compactConfig.inputs [emptyNameOutput] ∧
      StreamFault.noSpace ≠ .interrupted ∧
      (start emptyNameHost compactConfig { capacity := some 39 }).outcome =
        .ok .broken := by
  have hload : Loads emptyNameHost compactConfig.inputs [emptyNameOutput] :=
    .cons load_emptyNameDump .nil
  have hreport : ¬ Sink.Fits { capacity := some 39 }
      (emptyNameOutput.reportText compactConfig false) := by
    rw [reportText_emptyNameOutput]
    simp only [Sink.Fits]
    decide
  obtain ⟨hdisturbed, hline⟩ := disturbed_of_report_fault [] (.inr hreport)
  have houtcome := (start_outcome { capacity := some 39 } hload (by decide)).1
  rw [if_neg hline, if_pos hdisturbed] at houtcome
  exact ⟨hload, by decide, houtcome⟩

/-- A stream with room for the report of a story that fails, and for no more, gets a run without
a status. -/
theorem start_full_in_failure_line :
    ¬ ∀ host config sink outputs, Loads host config.inputs outputs →
      sink.onFull ≠ .interrupted →
      ∃ status, (start host config sink).outcome = .ok status ∧
        (Disturbed config sink outputs → status = .broken) := by
  intro h
  obtain ⟨status, hstatus, -⟩ := h emptyNameHost compactConfig
    { capacity := some 40 } [emptyNameOutput] (.cons load_emptyNameDump .nil) (by decide)
  have hfails : emptyNameOutput.fails compactConfig.policy = true := rfl
  have hreport : Sink.Fits { capacity := some 40 }
      (emptyNameOutput.reportText compactConfig false) := by
    rw [reportText_emptyNameOutput]
    simp only [Sink.Fits]
    decide
  have hline : ¬ Sink.Fits { capacity := some 40 }
      (emptyNameOutput.runText compactConfig false) := by
    rw [StoryOutput.runText_of_fails hfails, reportText_emptyNameOutput]
    simp only [Sink.Fits]
    decide
  have hstep := (lintStep_of_line_fault "a" rfl hfails hreport hline).1
  have hinputs : compactConfig.inputs = ["a"] := rfl
  rw [outcome_start, hinputs, (inputs_of_done load_emptyNameDump hstep).1] at hstatus
  cases hstatus

end Run

end StoryLint
