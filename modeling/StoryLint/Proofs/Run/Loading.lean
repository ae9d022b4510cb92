import StoryLint.Proofs.Run.Step

/-!
# Runs over inputs that may not load

The inputs decide what a run would do on a stream that takes everything: it writes the texts of
the stories before the first input that does not load (`stories`), and it ends as `ended` says.

`output_inputs` is the main result on the output: a run stores what its whole text, written at
once, would have stored, whatever the capacity of the stream. `inputs_of_fits` is the one on the
rest of a run whose text fits: its outcome and its records do not depend on the stream.
-/

namespace StoryLint.Run

variable {host : Host} {config : Config} {sink : Sink} {status : Status}
  {input : String} {names : List String}

/-- The inputs with what comes of loading them. -/
def loadings (host : Host) (names : List String) :
    List (String × Except Dump.LoadError StoryOutput) :=
  names.map fun input => (input, Dump.load host input)

/-- The stories before the first input that does not load. -/
def stories : List (String × Except Dump.LoadError StoryOutput) → List StoryOutput
  | (_, .ok output) :: rest => output :: stories rest
  | _ => []

/-- How a run ends that its stream does not disturb. -/
def ended (policy : Policy) (status : Status) :
    List (String × Except Dump.LoadError StoryOutput) → Except Escape Status
  | [] => .ok status
  | (input, .error e) :: _ => (loadOutcome input e).1
  | (_, .ok output) :: rest => ended policy (if output.fails policy then .failed else status) rest

/-- What a run writes on a stream that takes everything. -/
def wholeText (host : Host) (config : Config) (terminal : Option Bool)
    (names : List String) : String :=
  text config (config.color.enabledFor terminal) (stories (loadings host names))

/-- No names, nothing to load. -/
@[simp] theorem loadings_nil : loadings host [] = [] := rfl

/-- The first name is loaded first. -/
@[simp] theorem loadings_cons :
    loadings host (input :: names) = (input, Dump.load host input) :: loadings host names := rfl

/-- Without inputs there is nothing to write. -/
@[simp] theorem wholeText_nil (terminal : Option Bool) :
    wholeText host config terminal [] = "" := by
  simp [wholeText, stories]

/-- A dump that does not load ends the text. -/
theorem wholeText_of_error {e : Dump.LoadError} (terminal : Option Bool)
    (h : Dump.load host input = .error e) :
    wholeText host config terminal (input :: names) = "" := by
  simp only [wholeText, loadings_cons, h, stories, text_nil]

/-- A dump that loads adds the text of its story. -/
theorem wholeText_of_ok {output : StoryOutput} (terminal : Option Bool)
    (h : Dump.load host input = .ok output) :
    wholeText host config terminal (input :: names) =
      output.runText config (config.color.enabledFor terminal) ++
        wholeText host config terminal names := by
  simp only [wholeText, loadings_cons, h, stories, text_cons]

/-- A run whose text fits ends as its inputs decide, and the stream has taken the text. -/
theorem inputs_of_fits (host : Host) (config : Config) (status : Status)
    (names : List String) :
    ∃ flushes records, ∀ sink : Sink, sink.failsFlush = false →
      sink.Fits (wholeText host config sink.terminal names) →
      inputs host config status sink names =
        { outcome := ended config.policy status (loadings host names)
          sink := sink.advance (wholeText host config sink.terminal names) flushes
          records } := by
  induction names generalizing status with
  | nil => exact ⟨0, [], fun sink _ _ => by simp [inputs_nil, ended]⟩
  | cons input rest ih =>
      cases hload : Dump.load host input with
      | error e =>
          refine ⟨0, Dump.loadRecords host input ++ (loadOutcome input e).2, fun sink _ _ => ?_⟩
          rw [inputs_of_error _ _ _ _ hload, wholeText_of_error _ hload, loadings_cons, hload,
            ended, Sink.advance_empty]
      | ok output =>
          obtain ⟨flushes, records, hstep⟩ := lintStep_of_fits input config output
          obtain ⟨flushes', records', hrest⟩ :=
            ih (if output.fails config.policy then .failed else status)
          refine ⟨flushes + flushes', Dump.loadRecords host input ++ records ++ records',
            fun sink hflush h => ?_⟩
          rw [wholeText_of_ok _ hload, Sink.fits_append flushes] at h
          rw [inputs_of_next hload (hstep sink hflush h.1),
            hrest (sink.advance _ flushes) hflush h.2, loadings_cons, hload, ended,
            wholeText_of_ok _ hload, Sink.advance_advance, Sink.advance_terminal]

/-- A run stores what would be stored of its whole text. -/
theorem output_inputs (status : Status) (names : List String) (hflush : sink.failsFlush = false) :
    (inputs host config status sink names).sink.output =
      (Sink.write (wholeText host config sink.terminal names) sink).2.output := by
  induction names generalizing status sink with
  | nil => simp [inputs_nil, Sink.write_of_fits]
  | cons input rest ih =>
      cases hload : Dump.load host input with
      | error e =>
          rw [inputs_of_error _ _ _ _ hload, wholeText_of_error _ hload,
            Sink.write_of_fits Sink.fits_empty, Sink.advance_empty]
      | ok output =>
          rw [wholeText_of_ok _ hload]
          by_cases h : sink.Fits (output.runText config (config.color.enabledFor sink.terminal))
          · obtain ⟨flushes, records, hstep⟩ := lintStep_of_fits input config output
            have hrest := @ih
              (sink.advance (output.runText config (config.color.enabledFor sink.terminal)) flushes)
              (if output.fails config.policy then .failed else status) hflush
            rw [inputs_of_next hload (hstep sink hflush h), hrest, Sink.advance_terminal,
              Sink.output_write_append_of_fits flushes h]
          · obtain ⟨outcome, hdone, hstored, -⟩ := lintStep_of_not_fits input hflush h
            rw [(inputs_of_done hload hdone).2, hstored, Sink.write_append_of_not_fits h]

/-- An interrupt of a run whose text does not fit leaves the run. -/
theorem outcome_inputs_of_interrupt (status : Status) (names : List String)
    (hflush : sink.failsFlush = false) (hfull : sink.onFull = .interrupted)
    (h : ¬ sink.Fits (wholeText host config sink.terminal names)) :
    (inputs host config status sink names).outcome = .error (.stream .interrupted) := by
  induction names generalizing status sink with
  | nil => simp at h
  | cons input rest ih =>
      cases hload : Dump.load host input with
      | error e => simp [wholeText_of_error _ hload] at h
      | ok output =>
          rw [wholeText_of_ok _ hload] at h
          by_cases hfits : sink.Fits (output.runText config (config.color.enabledFor sink.terminal))
          · obtain ⟨flushes, records, hstep⟩ := lintStep_of_fits input config output
            rw [Sink.fits_append flushes, not_and] at h
            have hrest := @ih
              (sink.advance (output.runText config (config.color.enabledFor sink.terminal)) flushes)
              (if output.fails config.policy then .failed else status) hflush hfull (h hfits)
            rw [inputs_of_next hload (hstep sink hflush hfits), hrest]
          · obtain ⟨outcome, hdone, -, hinterrupted⟩ := lintStep_of_not_fits input hflush hfits
            rw [(inputs_of_done hload hdone).1, hinterrupted hfull]

/-! ## From the start -/

/-- A run whose text fits ends, and leaves records, in one way on all streams. -/
theorem start_of_fits (host : Host) (config : Config) :
    ∃ records, ∀ sink : Sink, sink.failsFlush = false →
      sink.Fits (wholeText host config sink.terminal config.inputs) →
      (start host config sink).outcome =
          ended config.policy .passed (loadings host config.inputs) ∧
        (start host config sink).records = records := by
  obtain ⟨flushes, records, hrun⟩ := inputs_of_fits host config .passed config.inputs
  refine ⟨config.policy.unknownNames.map unknownNameRecord ++ records, fun sink hflush h => ?_⟩
  simp only [start, hrun sink hflush h, and_self]

/-- On a stream that takes everything a run writes its whole text. -/
theorem output_start_of_unlimited (host : Host) (config : Config)
    (terminal : Option Bool) :
    (start host config { terminal }).sink.output =
      wholeText host config terminal config.inputs := by
  rw [start, output_inputs _ _ rfl, Sink.write_of_unlimited rfl, Sink.advance_output,
    String.empty_append]

end StoryLint.Run
