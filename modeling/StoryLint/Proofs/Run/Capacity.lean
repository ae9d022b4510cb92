import StoryLint.Program
import StoryLint.Proofs.Run.Stream

/-!
# Runs on streams of limited capacity

A run on a stream that takes only so many characters is compared with the same run on a stream
that takes everything. Where the cut falls in the whole text decides which writes fail and how the
run goes on from there, but the text that is stored is the front of the whole text in any case:
`output_inputs` says so for all runs at once. `start_capacity` is the main result. It adds what a
call of the program makes of a full stream that interrupts it.
-/

namespace StoryLint

namespace Run

variable {host : Host} {config : Config} {policy : Policy} {status : Status}
  {terminal : Option Bool} {capacity : Nat} {text : String}

/-- How a run ends is no matter of its stream, unless the stream disturbs it. -/
theorem ended_ne_stream
    (loadings : List (String × Except Dump.LoadError StoryOutput)) (fault : StreamFault) :
    ended policy status loadings ≠ .error (.stream fault) := by
  induction loadings generalizing status with
  | nil => simp [ended]
  | cons loading rest ih =>
      obtain ⟨input, loading⟩ := loading
      cases loading with
      | error e =>
          rw [ended]
          unfold loadOutcome
          split <;> simp
      | ok output => exact ih

/-- On a stream of limited capacity a run stores the front of its whole text. -/
theorem output_start_of_capacity (host : Host) (config : Config)
    (terminal : Option Bool) (capacity : Nat) (fault : StreamFault) :
    (start host config { terminal, capacity := some capacity, onFull := fault }).sink.output =
      String.ofList ((wholeText host config terminal config.inputs).toList.take capacity) := by
  rw [start, output_inputs _ _ rfl, Sink.write_of_capacity rfl, Sink.advance_output,
    String.empty_append, String.length_empty, Nat.sub_zero]

/-- On a fresh stream a text fits if it is no longer than the room. -/
theorem fits_of_capacity_iff (terminal : Option Bool) (capacity : Nat) (fault : StreamFault) :
    Sink.Fits { terminal, capacity := some capacity, onFull := fault } text ↔
      text.length ≤ capacity := by
  simp [Sink.Fits]

/-- An interrupt leaves a run exactly if the whole text exceeds the capacity. -/
theorem outcome_start_eq_interrupted_iff :
    (start host config { terminal, capacity := some capacity, onFull := .interrupted }).outcome =
        .error (.stream .interrupted) ↔
      capacity < (wholeText host config terminal config.inputs).length := by
  rw [← Nat.not_le, ← fits_of_capacity_iff terminal capacity .interrupted]
  constructor
  · intro hinterrupted hfits
    obtain ⟨records, hrun⟩ := start_of_fits host config
    exact ended_ne_stream _ _ ((hrun _ rfl hfits).1.symm.trans hinterrupted)
  · intro hcut
    exact outcome_inputs_of_interrupt .passed config.inputs rfl rfl hcut

end Run

namespace Program

variable {config : Config} {arguments : List String} {content : CommandLine.Arguments}

/-- A call with a configuration is a run of it. -/
theorem call_of_config (hparse : CommandLine.parse arguments = .ok content)
    (hconfig : content.config = .ok config) (host : Host) (time : String) (sink : Sink)
    (session : LogSession) :
    let run := Run.start host config sink
    call host time sink session arguments =
      { ending := (endingOf run.outcome).1
        sink := run.sink
        errorOutput := (session.configure content.verbosity).transcript time
          (run.records ++ (endingOf run.outcome).2)
        session := session.configure content.verbosity } := by
  simp only [call, hparse, execute, hconfig]

/-- A call whose text fits ends in one way on all streams, with the same messages. -/
theorem call_of_fits (hparse : CommandLine.parse arguments = .ok content)
    (hconfig : content.config = .ok config) (host : Host) (time : String)
    (session : LogSession) :
    ∃ ending errorOutput, ∀ sink : Sink, sink.failsFlush = false →
      sink.Fits (Run.wholeText host config sink.terminal config.inputs) →
      (call host time sink session arguments).ending = ending ∧
        (call host time sink session arguments).errorOutput = errorOutput := by
  obtain ⟨records, hrun⟩ := Run.start_of_fits host config
  let ended := endingOf (Run.ended config.policy .passed (Run.loadings host config.inputs))
  refine ⟨ended.1, (session.configure content.verbosity).transcript time (records ++ ended.2),
    fun sink hflush hfits => ?_⟩
  obtain ⟨houtcome, hrecords⟩ := hrun sink hflush hfits
  rw [call_of_config hparse hconfig, houtcome, hrecords]
  exact ⟨rfl, rfl⟩

/-- Only an interrupt ends a call with the exit code of an interrupt. -/
theorem endingOf_eq_interrupted_iff {outcome : Except Escape Status} :
    (endingOf outcome).1 = .returns interruptedCode ↔
      outcome = .error (.stream .interrupted) := by
  cases outcome with
  | ok status => cases status <;> simp [endingOf, Status.code, interruptedCode]
  | error e =>
      cases e with
      | stream fault => cases fault <;> simp [endingOf]
      | load e => simp [endingOf]

end Program

namespace Run

/-- On a stream that takes the first characters only, a run stores the front of what it writes on a
stream that takes everything, as far as the capacity goes, whatever fault the stream has behind it.
If the fault is an interrupt, a call of the program returns 130 exactly if something is cut off,
and otherwise ends as it would on a stream that takes everything. -/
theorem start_capacity (host : Host) (config : Config) (terminal : Option Bool)
    (capacity : Nat) (fault : StreamFault) :
    let unlimited : Sink := { terminal }
    let limited : Sink := { terminal, capacity := some capacity, onFull := fault }
    let whole := (start host config unlimited).sink.output
    (start host config limited).sink.output = String.ofList (whole.toList.take capacity) ∧
      ∀ time session arguments content, fault = .interrupted →
        CommandLine.parse arguments = .ok content → content.config = .ok config →
          let cut := Program.call host time limited session arguments
          let free := Program.call host time unlimited session arguments
          (cut.ending = .returns 130 ↔ capacity < whole.length) ∧
            (whole.length ≤ capacity →
              cut.ending = free.ending ∧ cut.errorOutput = free.errorOutput) := by
  intro unlimited limited whole
  have hwhole : whole = wholeText host config terminal config.inputs :=
    output_start_of_unlimited host config terminal
  refine ⟨?_, ?_⟩
  · rw [hwhole]
    exact output_start_of_capacity host config terminal capacity fault
  · intro time session arguments content hfault hparse hconfig cut free
    subst hfault
    rw [hwhole]
    constructor
    · rw [← outcome_start_eq_interrupted_iff, ← Program.endingOf_eq_interrupted_iff]
      simp only [cut, Program.call_of_config hparse hconfig, limited, Program.interruptedCode]
    · intro hle
      -- A call whose text fits ends in one way, whatever the sink is.
      obtain ⟨ending, errorOutput, hcall⟩ :=
        Program.call_of_fits hparse hconfig host time session
      have hcut := hcall limited rfl ((fits_of_capacity_iff terminal capacity _).2 hle)
      have hfree := hcall unlimited rfl (Sink.fits_of_unlimited rfl)
      exact ⟨hcut.1.trans hfree.1.symm, hcut.2.trans hfree.2.symm⟩

/-- A stream that is full within the failure line, and interrupts the call there. -/
theorem start_capacity_in_failure_line :
    let arguments := ["--compact", "--color", "never", "a"]
    let content : CommandLine.Arguments :=
      { inputs := ["a"], compact := true, color := some .never }
    let limited : Sink := { capacity := some 50, onFull := .interrupted }
    CommandLine.parse arguments = .ok content ∧ content.config = .ok compactConfig ∧
      (start emptyNameHost compactConfig limited).sink.output =
        "Error: Passage header has an empty name\nFailed due" ∧
      (Program.call emptyNameHost "" limited {} arguments).ending =
        .returns 130 := by
  intro arguments content limited
  have hparse : CommandLine.parse arguments = .ok content := by
    decide +kernel
  have hconfig : content.config = .ok compactConfig := by
    decide +kernel
  have hwhole : (start emptyNameHost compactConfig {}).sink.output =
      "Error: Passage header has an empty name\nFailed due to previous errors\n" := by
    have hinputs : compactConfig.inputs = ["a"] := rfl
    rw [output_start_of_unlimited, hinputs, wholeText_of_ok none load_emptyNameDump, wholeText_nil]
    decide +kernel
  obtain ⟨houtput, hcall⟩ := start_capacity emptyNameHost compactConfig none 50
    .interrupted
  refine ⟨hparse, hconfig, ?_, ?_⟩
  · rw [houtput, hwhole]
    decide +kernel
  · refine (hcall "" {} arguments content rfl hparse hconfig).1.2 ?_
    rw [hwhole]
    decide

end Run

end StoryLint
