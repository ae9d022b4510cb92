import StoryLint.Program
import StoryLint.Proofs.Run.Step
import Mathlib.Data.List.Forall2

/-!
# Calls in one process

The log session is all that one call leaves to the next. A call that gets past its command line
sets the level again and installs a handler where there is none, so a session has one handler at
most, whatever calls came before (`LogSession.Single`); and with one handler at most, the session
makes no difference to what is seen of a call. `Program.calls_isolated` is the main result: every
call of a sequence is the call that a fresh process would make.
-/

namespace StoryLint

namespace LogSession

variable {session : LogSession} {level : LogLevel}

/-- A session with one handler at most writes a record once. -/
def Single (session : LogSession) : Prop :=
  session.handlers ≤ 1

/-- A fresh process has no handler yet. -/
theorem single_fresh : Single {} := Nat.zero_le 1

/-- Setting up the log leaves one handler at most. -/
theorem single_configure (h : session.Single) (verbosity : Int) :
    (session.configure verbosity).Single := by
  unfold Single configure at *
  dsimp only
  split <;> omega

/-- Of a session with one handler at most, nothing is left when it is configured. -/
theorem configure_eq_fresh (h : session.Single) (verbosity : Int) :
    session.configure verbosity = ({} : LogSession).configure verbosity := by
  unfold Single at h
  rcases Nat.le_one_iff_eq_zero_or_eq_one.1 h with hnone | hone
  · simp [configure, hnone]
  · simp [configure, hone]

/-- A freshly configured session writes every record from its level on once. -/
theorem transcript_configure_fresh (verbosity : Int) (time : String) (records : List LogRecord) :
    (({} : LogSession).configure verbosity).transcript time records =
      String.join ((records.filter fun record =>
        (LogLevel.ofVerbosity verbosity).rank ≤ record.level.rank).map (·.line time)) := by
  rw [List.map_eq_flatMap]
  rfl

end LogSession

namespace Program

variable {session : LogSession} {host : Host} {time : String} {sink : Sink}
  {arguments : CommandLine.Arguments}

/-- What is seen of a call: its ending, its output stream, and what it writes as errors. -/
def Call.observed (call : Call) : Ending × Sink × String :=
  (call.ending, call.sink, call.errorOutput)

/-- The log records of a call that gets past its command line, those that are not shown included. -/
def logRecords (host : Host) (sink : Sink) (arguments : CommandLine.Arguments) :
    List LogRecord :=
  match arguments.config with
  | .error .missingValue => []
  | .error (.unusable e) => [Run.record .error e.message]
  | .ok config =>
      let run := Run.start host config sink
      run.records ++ (endingOf run.outcome).2

/-- A call writes its log records, as the session shows them, and no other errors. -/
theorem errorOutput_execute :
    (execute host time arguments sink session).errorOutput =
      (session.configure arguments.verbosity).transcript time
        (logRecords host sink arguments) := by
  simp only [execute, logRecords]
  cases arguments.config with
  | ok config => rfl
  | error refusal =>
      cases refusal with
      | missingValue => rfl
      | unusable e => rfl

/-- A run changes the session only by setting up the log. -/
theorem session_execute :
    (execute host time arguments sink session).session =
      session.configure arguments.verbosity := by
  simp only [execute]
  cases arguments.config with
  | ok config => rfl
  | error refusal =>
      cases refusal with
      | missingValue => rfl
      | unusable e => rfl

/-- A session is used as it is configured, and in no other way. -/
theorem execute_eq_fresh (h : session.Single) :
    execute host time arguments sink session = execute host time arguments sink {} := by
  simp only [execute, LogSession.configure_eq_fresh h]

namespace Invocation

variable {invocation : Invocation}

/-- A call in a process is the call that a fresh process would make, and its log is made of its
own records: each that its verbosity shows is written once. -/
structure Isolated (invocation : Invocation) (call : Call) : Prop where
  observed_eq : call.observed = (invocation.call {}).observed
  log_eq : ∀ content, CommandLine.parse invocation.arguments = .ok content →
    call.errorOutput = String.join
      (((logRecords invocation.host invocation.sink content).filter fun record =>
        (LogLevel.ofVerbosity content.verbosity).rank ≤ record.level.rank).map
          (·.line invocation.time))

/-- A call leaves a session with one handler at most, wherever it stops. -/
theorem single_call (h : session.Single) (invocation : Invocation) :
    (invocation.call session).session.Single := by
  simp only [call, Program.call]
  cases CommandLine.parse invocation.arguments with
  | error exit => exact h
  | ok content =>
      show (execute _ _ content _ session).session.Single
      rw [session_execute]
      exact LogSession.single_configure h _

/-- With one handler at most, the session makes no difference to what is seen of a call. -/
theorem observed_call (h : session.Single) (invocation : Invocation) :
    (invocation.call session).observed = (invocation.call {}).observed := by
  simp only [call, Program.call]
  cases CommandLine.parse invocation.arguments with
  | error exit => rfl
  | ok content =>
      show (execute _ _ content _ session).observed = (execute _ _ content _ {}).observed
      rw [execute_eq_fresh h]

/-- A call behind one handler at most is isolated. -/
theorem isolated_call (h : session.Single) (invocation : Invocation) :
    invocation.Isolated (invocation.call session) where
  observed_eq := observed_call h invocation
  log_eq := by
    intro content hparse
    have hcall : invocation.call session =
        execute invocation.host invocation.time content invocation.sink session := by
      simp only [call, Program.call, hparse]
    rw [hcall, errorOutput_execute, LogSession.configure_eq_fresh h,
      LogSession.transcript_configure_fresh]

end Invocation

/-- Calls one after the other are isolated if there is one handler at most in front of them. -/
theorem isolated_calls (h : session.Single) (invocations : List Invocation) :
    List.Forall₂ Invocation.Isolated invocations (calls session invocations) := by
  induction invocations generalizing session with
  | nil => exact .nil
  | cons invocation rest ih =>
      exact .cons (Invocation.isolated_call h invocation) (ih (Invocation.single_call h invocation))

/-- Calls in one process do not influence each other. Whatever calls came before it and however
they ended, a call ends as it would in a fresh process, leaves the same output stream and writes
the same errors. In its log stands each of its own records once, from the level on that its own
verbosity sets, and nothing else. -/
theorem calls_isolated (invocations : List Invocation) :
    List.Forall₂ Invocation.Isolated invocations (calls {} invocations) :=
  isolated_calls LogSession.single_fresh invocations

/-- A host where every path leads to a dump whose title is a number. -/
def numberTitle : Host :=
  .ofFiles fun _ => .ok [123, 34, 116, 105, 116, 108, 101, 34, 58, 48, 125]

/-- A dump with a number as title is malformed. -/
theorem load_numberTitle :
    Dump.load numberTitle "a" = .error (.failure (.malformed
      { source := some "a", place := .title, reason := .titleNotText })) := by
  decide +kernel

/-- The entries of the dump are counted in the log before its title is read. -/
theorem loadRecords_numberTitle :
    Dump.loadRecords numberTitle "a" =
      [{ level := .debug
         source := .dump
         message := "dump a: 0 file(s), 0 warning(s), 0 error(s)" }] := by
  decide +kernel

/-- A run on it logs the counts and the fault. -/
theorem logRecords_numberTitle (verbosity : Int) :
    logRecords numberTitle {} { inputs := ["a"], verbosity } =
      [{ level := .debug
         source := .dump
         message := "dump a: 0 file(s), 0 warning(s), 0 error(s)" },
       Run.record .error "malformed dump a [title]: title must be a string"] := by
  have hconfig : ({ inputs := ["a"], verbosity } : CommandLine.Arguments).config =
      .ok { inputs := ["a"], verbosity } := rfl
  simp only [logRecords, hconfig, Run.start]
  rw [Run.inputs_of_error _ _ _ _ load_numberTitle, loadRecords_numberTitle]
  rfl

/-- Behind a call that shows everything, and one that only gives the version, a call shows what
its own verbosity asks for, once. -/
theorem calls_isolated_behind_verbose :
    let invocation (arguments : List String) : Invocation :=
      { host := numberTitle, time := "T", sink := {}, arguments }
    CommandLine.parse ["-vv", "a"] = .ok { inputs := ["a"], verbosity := 2 } ∧
      CommandLine.parse ["a"] = .ok { inputs := ["a"] } ∧
      ∃ first second third,
        calls {} [invocation ["-vv", "a"], invocation ["--version"], invocation ["a"]] =
          [first, second, third] ∧
        first.errorOutput = "T [DEBUG] tweec.dump: dump a: 0 file(s), 0 warning(s), 0 error(s)\n" ++
          "T [ERROR] tweec: malformed dump a [title]: title must be a string\n" ∧
        third.errorOutput =
          "T [ERROR] tweec: malformed dump a [title]: title must be a string\n" := by
  intro invocation
  have hverbose : CommandLine.parse ["-vv", "a"] = .ok { inputs := ["a"], verbosity := 2 } := by
    decide +kernel
  have hquiet : CommandLine.parse ["a"] = .ok { inputs := ["a"] } := by
    decide +kernel
  have hisolated := calls_isolated
    [invocation ["-vv", "a"], invocation ["--version"], invocation ["a"]]
  generalize calls {} [invocation ["-vv", "a"], invocation ["--version"], invocation ["a"]] = seen
    at hisolated ⊢
  rcases hisolated with _ | ⟨hfirst, _ | ⟨-, _ | ⟨hthird, ⟨⟩⟩⟩⟩
  refine ⟨hverbose, hquiet, _, _, _, rfl, ?_, ?_⟩
  · rw [hfirst.log_eq _ hverbose, logRecords_numberTitle]
    rfl
  · rw [hthird.log_eq _ hquiet, logRecords_numberTitle]
    rfl

end Program

end StoryLint
