import StoryLint.Dump.Load
import StoryLint.Lint

/-!
# Runs

A run lints the dumps of a configuration one after the other on one output stream. The worst
outcome decides the exit code: a dump that cannot be loaded, or a report that cannot be written,
ends the run at once; a failed story is remembered and the run goes on. Behind the report of a
failed story stands a line that says so.

`Run.start` does all of a run at once, with the log records that it leaves.
-/

namespace StoryLint

/-- How a run ends on its own account. -/
inductive Status where
  | passed
  | failed
  | broken
deriving DecidableEq, Repr

/-- The exit code of a status. -/
def Status.code : Status → Nat
  | passed => 0
  | failed => 1
  | broken => 2

/-- What leaves a run without a status: an interrupt or a fault of the output stream behind the
report of a failed story, or a dump that fails to load in a way that is not reported. -/
inductive Escape where
  | stream (fault : StreamFault)
  | load (e : Dump.LoadError)
deriving DecidableEq, Repr

/-- The error text. -/
def Escape.message : Escape → String
  | stream fault => fault.message
  | load e => e.message

/-- What came of a run: its status or what escaped, the output stream afterwards, and the log
records in order. -/
structure Run where
  outcome : Except Escape Status
  sink : Sink
  records : List LogRecord

namespace Run

/-- A record of the program itself. -/
def record (level : LogLevel) (message : String) : LogRecord :=
  { level, source := .program, message }

/-- The record about a name of the policy that means nothing. -/
def unknownNameRecord (name : String) : LogRecord :=
  record .warning ("unknown warning name " ++ Text.quoted name ++ " in --allow/--deny")

/-- The record about a story that passed. -/
def passedRecord (input : String) (story : Story) : LogRecord :=
  let title := (story.title.map Text.quoted).getD "None"
  record .info (input ++ ": " ++ title ++ " passed (" ++ toString story.passages.length ++
    " passage(s))")

/-- What becomes of a dump that does not load: a status with the record that reports it, or an
escape. -/
def loadOutcome (input : String) : Dump.LoadError → Except Escape Status × List LogRecord
  | .unreadable e =>
      (.ok .broken, [record .error ("cannot read " ++ input ++ ": " ++ e.message)])
  | .failure (.malformed e) => (.ok .broken, [record .error ("malformed dump " ++ e.message)])
  | e => (.error (.load e), [])

/-- Say that a story failed, and flush. -/
def announceFailure (issueCount : Nat) (sink : Sink) : Option StreamFault × Sink :=
  match Sink.write ((LintError.failed issueCount).message ++ "\n") sink with
  | (none, sink) => Sink.flush sink
  | (some fault, sink) => (some fault, sink)

/-- What linting one input means for the run: it goes on, with or without a failed story, or it
ends. -/
inductive Step where
  | next (failed : Bool)
  | done (outcome : Except Escape Status)

/-- Lint a story that was loaded, and announce its failure. -/
def lintStep (input : String) (config : Config) (output : StoryOutput) (sink : Sink) :
    Step × Sink × List LogRecord :=
  let lint := lint output config sink
  match lint.outcome with
  | .ok story => (.next false, lint.sink, lint.records ++ [passedRecord input story])
  | .error (.failed count) =>
      match announceFailure count lint.sink with
      | (none, sink) => (.next true, sink, lint.records)
      | (some fault, sink) => (.done (.error (.stream fault)), sink, lint.records)
  | .error (.stream .interrupted) =>
      (.done (.error (.stream .interrupted)), lint.sink, lint.records)
  | .error (.stream fault) =>
      (.done (.ok .broken), lint.sink,
        lint.records ++ [record .error ("failed to write report: " ++ fault.message)])

/-- Lint inputs one after the other, with the status so far. -/
def inputs (host : Host) (config : Config) (status : Status) (sink : Sink) :
    List String → Run
  | [] => { outcome := .ok status, sink, records := [] }
  | input :: rest =>
      let loading := Dump.loadRecords host input
      match Dump.load host input with
      | .error e =>
          let (outcome, records) := loadOutcome input e
          { outcome, sink, records := loading ++ records }
      | .ok output =>
          match lintStep input config output sink with
          | (.done outcome, sink, records) => { outcome, sink, records := loading ++ records }
          | (.next failed, sink, records) =>
              let run := inputs host config (if failed then .failed else status) sink rest
              { run with records := loading ++ records ++ run.records }

/-- Run a configuration. -/
def start (host : Host) (config : Config) (sink : Sink) : Run :=
  let run := inputs host config .passed sink config.inputs
  { run with records := config.policy.unknownNames.map unknownNameRecord ++ run.records }

end Run

end StoryLint
