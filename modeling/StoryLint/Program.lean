import StoryLint.CommandLine.Parse
import StoryLint.Run

/-!
# The program

`Program.call` is one call of the program with its arguments: it reads the command line, sets up
the log, checks the configuration, runs it, and ends with an exit code. `Program.calls` is a
sequence of calls in one process, in which the log session is what one call leaves to the next.
-/

namespace StoryLint.Program

/-- How a call ends: it returns an exit code, it exits early with one, an error escapes, or it
breaks off because a switch is without its value. -/
inductive Ending where
  | returns (code : Nat)
  | exits (code : Nat)
  | escapes (e : Escape)
  | missingValue
deriving DecidableEq, Repr

/-- What came of a call: its ending, the output stream and the error output afterwards, and the
log session that it leaves. -/
structure Call where
  ending : Ending
  sink : Sink
  errorOutput : String
  session : LogSession

/-- The exit code of an interrupted call. -/
def interruptedCode : Nat := 130

/-- The record about an interrupt. -/
def interruptedRecord : LogRecord :=
  Run.record .info "Interrupted by user."

/-- The exit of a call before it runs. A fault in writing the output escapes. -/
def exitEarly (exit : CommandLine.EarlyExit) (sink : Sink) (session : LogSession) : Call :=
  let (fault, sink) := Sink.write exit.output sink
  { ending := match fault with
      | some fault => .escapes (.stream fault)
      | none => .exits exit.code
    sink, session
    errorOutput := exit.errorOutput }

/-- The ending of a run with the record that belongs to it. -/
def endingOf : Except Escape Status → Ending × List LogRecord
  | .ok status => (.returns status.code, [])
  | .error (.stream .interrupted) => (.returns interruptedCode, [interruptedRecord])
  | .error e => (.escapes e, [])

/-- Check and run what the arguments ask for. -/
def execute (host : Host) (time : String) (arguments : CommandLine.Arguments) (sink : Sink)
    (session : LogSession) : Call :=
  let session := session.configure arguments.verbosity
  match arguments.config with
  | .error .missingValue => { ending := .missingValue, sink, session, errorOutput := "" }
  | .error (.unusable e) =>
      { ending := .returns Status.broken.code
        sink, session
        errorOutput := session.transcript time [Run.record .error e.message] }
  | .ok config =>
      let run := Run.start host config sink
      let (ending, records) := endingOf run.outcome
      { ending, sink := run.sink, session
        errorOutput := session.transcript time (run.records ++ records) }

/-- Call the program with arguments. `time` is the time of day in log records. -/
def call (host : Host) (time : String) (sink : Sink) (session : LogSession)
    (arguments : List String) : Call :=
  match CommandLine.parse arguments with
  | .error exit => exitEarly exit sink session
  | .ok arguments => execute host time arguments sink session

/-- What a call is made with: the host and the time of day at the call, an output stream of its
own, and the arguments. -/
structure Invocation where
  host : Host
  time : String
  sink : Sink
  arguments : List String

/-- Make a call in a process whose earlier calls left a log session. -/
def Invocation.call (invocation : Invocation) (session : LogSession) : Call :=
  Program.call invocation.host invocation.time invocation.sink session invocation.arguments

/-- Make several calls in one process. -/
def calls (session : LogSession) : List Invocation → List Call
  | [] => []
  | invocation :: rest =>
      let first := invocation.call session
      first :: calls first.session rest

end StoryLint.Program
