import StoryLint.Issue.Classify
import StoryLint.Issue.Report
import StoryLint.Terminal.Sink

/-!
# Linting a story

`lintOn` reports the issues of a story to an output device and gives its verdict. The device is
closed on every way out. A fault of the device is the outcome even if the story has errors. `lint`
does so on an output stream.
-/

namespace StoryLint

/-- Why linting gave no story: its issues, or the output stream. -/
inductive LintError where
  | failed (issueCount : Nat)
  | stream (fault : StreamFault)
deriving DecidableEq, Repr

/-- The error text. -/
def LintError.message : LintError → String
  | .failed _ => "Failed due to previous errors"
  | .stream fault => fault.message

/-- What came of linting: the story or the error, the output stream afterwards, and the log
records on the way. -/
structure LintRun where
  outcome : Except LintError Story
  sink : Sink
  records : List LogRecord

/-- The log record about passage names that are not known. -/
def StoryResult.records : StoryResult → List LogRecord
  | .story _ => []
  | .errors list _ =>
      [{ level := .debug
         source := .storyFiles
         message := "parse failed with " ++ toString list.length ++
           " error(s); passage names unavailable" }]

/-- The log record of a complete report. -/
def reportRecord (issues : List Issue) : LogRecord :=
  let errors := (issues.filter (·.severity = .error)).length
  { level := .info
    source := .linter
    message := toString issues.length ++ " issue(s) reported (" ++ toString errors ++
      " error-level)" }

/-- The verdict on a story that has been reported completely. -/
def verdict (result : StoryResult) (c : Classification) : Except LintError Story :=
  match result with
  | .story s => if c.isFailure then .error (.failed c.issues.length) else .ok s
  | .errors _ _ => .error (.failed c.issues.length)

/-- Report the issues of a story to a device and give the verdict: the outcome, the state of the
device afterwards, and the log records. -/
def lintOn {σ : Type} (device : Device σ) (output : StoryOutput) (config : Config) (s : σ) :
    Except LintError Story × σ × List LogRecord :=
  let files := StoryFiles.ofResult output.result
  let c := (Classification.ofResult output.result output.warnings config.policy).sorted
  let colored := config.color.enabledFor (device.terminal s)
  let texts := Issue.reportTexts colored config.compact files c.issues
  let (fault, s) := device.guarded colored id (device.writeAll texts) s
  let before := output.result.records ++ [c.record]
  match fault with
  | some fault => (.error (.stream fault), s, before)
  | none => (verdict output.result c, s, before ++ [reportRecord c.issues])

/-- Report the issues of a story to an output stream and give the verdict. -/
def lint (output : StoryOutput) (config : Config) (sink : Sink) : LintRun :=
  let (outcome, sink, records) := lintOn Sink.device output config sink
  { outcome, sink, records }

end StoryLint
