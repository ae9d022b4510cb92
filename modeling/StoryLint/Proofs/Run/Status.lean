import StoryLint.Proofs.Run.Stream

/-!
# The status of a run

On a stream that never fails, the inputs decide the exit code of a run, and the worst of them
counts. `start_worst` is the main result: the code is 2 if an input does not load, else 1 if a
story fails, and else 0. The output is made of the reports on the inputs before the first one that
does not load, each as it would be on its own.

An input may fail to load only in a way that a run reports (`Dump.LoadError.IsReported`); any other
failure leaves the run without a status.
-/

namespace StoryLint

/-- The failures of loading that a run reports: a file that cannot be read, and a malformed
dump. -/
def Dump.LoadError.IsReported : Dump.LoadError → Prop
  | .unreadable _ | .failure (.malformed _) => True
  | _ => False

namespace Run

variable {host : Host} {config : Config} {policy : Policy} {status : Status} {stream : Sink}
  {names before after : List String} {input : String} {output : StoryOutput}

/-- An input loads. -/
def isLoadable (host : Host) (input : String) : Bool :=
  (Dump.load host input).isOk

/-- Linting the story of an input says that it failed. -/
def lintFails (host : Host) (config : Config) (stream : Sink) (input : String) : Bool :=
  (Dump.load host input).toOption.any fun output =>
    (lint output config stream).outcome matches .error (.failed _)

/-- The worst that comes of inputs: one that does not load, else one that fails, else the status
so far. -/
def worst (host : Host) (config : Config) (stream : Sink) (status : Status)
    (names : List String) : Status :=
  if names.any (!isLoadable host ·) then .broken
  else if names.any (lintFails host config stream) then .failed
  else status

/-- What an input adds to the output of a run: the report on its story as linting writes it, and
the line that says that linting failed. -/
def contribution (host : Host) (config : Config) (stream : Sink) (input : String) : String :=
  (Dump.load host input).toOption.elim "" fun output =>
    (lint output config stream).sink.output ++
      if lintFails host config stream input then failureLine else ""

/-- An input with an error is not loadable. -/
theorem isLoadable_of_error {e : Dump.LoadError} (h : Dump.load host input = .error e) :
    isLoadable host input = false := by
  rw [isLoadable, h, Except.isOk, Except.toBool]

/-- An input with a story is loadable. -/
theorem isLoadable_of_ok (h : Dump.load host input = .ok output) :
    isLoadable host input = true := by
  rw [isLoadable, h, Except.isOk, Except.toBool]

/-- On a stream that never fails, linting fails for the stories that fail. -/
theorem lintFails_of_ok (hcapacity : stream.capacity = none) (hflush : stream.failsFlush = false)
    (h : Dump.load host input = .ok output) :
    lintFails host config stream input = output.fails config.policy := by
  simp only [lintFails, h, Except.toOption, Option.any_some,
    outcome_lint output config hcapacity hflush]
  cases hfails : output.fails config.policy with
  | true => simp only [StoryOutput.verdict_of_fails hfails]
  | false =>
      obtain ⟨story, -, hverdict⟩ := StoryOutput.verdict_of_passes hfails
      simp only [hverdict]

/-! ## The code -/

/-- An error that is reported breaks the run. -/
theorem loadOutcome_of_isReported {e : Dump.LoadError} (input : String) (h : e.IsReported) :
    (loadOutcome input e).1 = .ok .broken := by
  cases e with
  | failure f => cases f <;> simp_all [Dump.LoadError.IsReported, loadOutcome]
  | _ => simp_all [Dump.LoadError.IsReported, loadOutcome]

/-- Inputs whose failures are reported end a run with the worst status. -/
theorem ended_eq_worst (hcapacity : stream.capacity = none) (hflush : stream.failsFlush = false)
    (h : ∀ input ∈ names, ∀ e, Dump.load host input = .error e → e.IsReported) :
    ended config.policy status (loadings host names) =
      .ok (worst host config stream status names) := by
  induction names generalizing status with
  | nil => simp [ended, worst]
  | cons input rest ih =>
      cases hload : Dump.load host input with
      | error e =>
          have hreported := h input List.mem_cons_self e hload
          simp only [loadings_cons, hload, ended, loadOutcome_of_isReported input hreported, worst,
            List.any_cons, isLoadable_of_error hload, Bool.not_false, Bool.true_or, if_true]
      | ok output =>
          have hrest := @ih (if output.fails config.policy then .failed else status)
            fun input hinput => h input (List.mem_cons_of_mem _ hinput)
          simp only [loadings_cons, hload, ended, hrest, worst, List.any_cons,
            isLoadable_of_ok hload, lintFails_of_ok hcapacity hflush hload]
          cases output.fails config.policy <;> simp

/-- Linting does not look at the inputs of a configuration. -/
theorem lintFails_inputs (names : List String) :
    lintFails host { config with inputs := names } = lintFails host config := by
  funext stream input
  unfold lintFails lint lintOn
  rfl

/-- More inputs do not lower the status. -/
theorem code_worst_le_append :
    (worst host config stream .passed before).code ≤
      (worst host config stream .passed (before ++ after)).code := by
  simp only [worst, List.any_append]
  cases before.any (!isLoadable host ·) <;> cases before.any (lintFails host config stream) <;>
    cases after.any (!isLoadable host ·) <;> simp [Status.code]

/-! ## The output -/

/-- What an input contributes is what a run writes for its story. -/
theorem contribution_of_ok (terminal : Option Bool) (h : Dump.load host input = .ok output) :
    contribution host config { terminal } input =
      output.runText config (config.color.enabledFor terminal) := by
  have hfails : lintFails host config { terminal } input = output.fails config.policy :=
    lintFails_of_ok rfl rfl h
  have hreport : (lint output config { terminal }).sink.output =
      output.reportText config (config.color.enabledFor terminal) := by
    rw [output_lint output config rfl rfl, String.empty_append]
  simp only [contribution, h, Except.toOption, Option.elim_some, hreport, hfails,
    StoryOutput.runText]

/-- The whole text of a run is what its inputs contribute. -/
theorem wholeText_eq_join (terminal : Option Bool) :
    wholeText host config terminal names = String.join
      ((names.takeWhile (isLoadable host)).map (contribution host config { terminal })) := by
  induction names with
  | nil => simp
  | cons input rest ih =>
      cases hload : Dump.load host input with
      | error e =>
          have hstop : ¬ isLoadable host input = true := by
            simp [isLoadable_of_error hload]
          rw [wholeText_of_error _ hload, List.takeWhile_cons_of_neg hstop, List.map_nil,
            String.join_nil]
      | ok output =>
          rw [wholeText_of_ok _ hload, List.takeWhile_cons_of_pos (isLoadable_of_ok hload), ih,
            List.map_cons, String.join_cons, contribution_of_ok terminal hload]

/-- Inputs whose failures are reported end a run with the worst status, and the stream has taken
what they contribute. -/
theorem start_of_isReported (host : Host) (config : Config) (terminal : Option Bool)
    (h : ∀ input ∈ config.inputs, ∀ e, Dump.load host input = .error e → e.IsReported) :
    (start host config { terminal }).outcome =
        .ok (worst host config { terminal } .passed config.inputs) ∧
      (start host config { terminal }).sink.output = String.join
        ((config.inputs.takeWhile (isLoadable host)).map
          (contribution host config { terminal })) := by
  obtain ⟨records, hrun⟩ := start_of_fits host config
  constructor
  · rw [(hrun { terminal } rfl (Sink.fits_of_unlimited rfl)).1]
    exact ended_eq_worst rfl rfl h
  · rw [output_start_of_unlimited, wholeText_eq_join]

/-- On a stream that never fails the worst outcome of the inputs gives the exit code. The output
consists of the complete reports on the inputs before the first one that does not load, each with
the failure line behind it exactly if linting failed. Inputs behind others do not lower the exit
code. -/
theorem start_worst (host : Host) (config : Config) (terminal : Option Bool)
    (hinputs : ∀ input ∈ config.inputs, ∀ e, Dump.load host input = .error e → e.IsReported) :
    let stream : Sink := { terminal }
    let run := start host config stream
    run.outcome.map Status.code =
        .ok (if ∃ input ∈ config.inputs, isLoadable host input = false then 2
          else if ∃ input ∈ config.inputs, lintFails host config stream input = true then 1
          else 0) ∧
      run.sink.output = String.join
        ((config.inputs.takeWhile (isLoadable host)).map (contribution host config stream)) ∧
      ∀ before after, config.inputs = before ++ after →
        ∃ status status',
          (start host { config with inputs := before } stream).outcome = .ok status ∧
            run.outcome = .ok status' ∧ status.code ≤ status'.code := by
  intro stream run
  obtain ⟨hrun, houtput⟩ := start_of_isReported host config terminal hinputs
  refine ⟨?_, houtput, ?_⟩
  · simp only [run, stream, hrun, worst, List.any_eq_true, Bool.not_eq_true', Except.map]
    split
    · rfl
    · split <;> rfl
  · intro before after hsplit
    have hbefore := start_of_isReported host { config with inputs := before } terminal
      fun input hinput => hinputs input (by simp [hsplit, hinput])
    refine ⟨_, _, hbefore.1, hrun, ?_⟩
    rw [hsplit, worst, lintFails_inputs, ← worst]
    exact code_worst_le_append

/-- A host with the dump with one error at a path, and no other file. -/
def oneDump : Host :=
  .ofFiles fun path => if path.names = ["a"] then .ok emptyNameDump else .error .notFound

/-- The dump at the path is loaded. -/
theorem load_oneDump_a : Dump.load oneDump "a" = .ok emptyNameOutput := by
  decide +kernel

/-- At another path there is none. -/
theorem load_oneDump_b :
    Dump.load oneDump "b" = .error (.unreadable ⟨.notFound, .ofString "b"⟩) := by
  decide +kernel

/-- A story that fails in front of a file that is not there: the report stays, and the exit code
is that of the missing file. -/
theorem start_worst_missing_file :
    let config := { compactConfig with inputs := ["a", "b"] }
    (∀ input ∈ config.inputs, ∀ e, Dump.load oneDump input = .error e → e.IsReported) ∧
      (start oneDump config {}).outcome.map Status.code = .ok 2 ∧
      (start oneDump config {}).sink.output =
        "Error: Passage header has an empty name\nFailed due to previous errors\n" := by
  intro config
  have hinputs : ∀ input ∈ config.inputs, ∀ e,
      Dump.load oneDump input = .error e → e.IsReported := by
    simp only [config, List.mem_cons, List.not_mem_nil, or_false, forall_eq_or_imp, forall_eq,
      load_oneDump_a, load_oneDump_b]
    simp [Dump.LoadError.IsReported]
  have hmissing : ∃ input ∈ config.inputs, isLoadable oneDump input = false :=
    ⟨"b", by simp [config], isLoadable_of_error load_oneDump_b⟩
  obtain ⟨hcode, houtput, -⟩ := start_worst oneDump config none hinputs
  rw [if_pos hmissing] at hcode
  refine ⟨hinputs, hcode, houtput.trans ?_⟩
  have hreport : contribution oneDump config {} "a" =
      "Error: Passage header has an empty name\nFailed due to previous errors\n" := by
    rw [contribution_of_ok none load_oneDump_a]
    decide +kernel
  simp [config, List.takeWhile, isLoadable_of_ok load_oneDump_a, isLoadable_of_error load_oneDump_b,
    ← hreport]

end Run

end StoryLint
