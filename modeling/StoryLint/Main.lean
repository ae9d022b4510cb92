import StoryLint.Program
import Std.Time.Format

/-!
# The command

`Command.run` reads the input files that the arguments name and the time of day, calls
`Program.call`, and writes what the call leaves on the output streams.
-/

namespace StoryLint.Command

/-- The positive number of a system error, which may be reported negated in 32 bits. -/
def systemCode (code : UInt32) : Nat :=
  if code.toNat < 0x80000000 then code.toNat else 0x100000000 - code.toNat

/-- The fault that a system error stands for. -/
def fileFault : IO.Error → FileFault
  | .noFileOrDirectory .. => .notFound
  | .inappropriateType _ code _ => if systemCode code = 20 then .notDirectory else .isDirectory
  | .permissionDenied _ code _ => .other (systemCode code) "Permission denied"
  | .invalidArgument _ code text =>
      if systemCode code = 36 then .nameTooLong else .other (systemCode code) text
  | e => .other 5 e.toString

/-- What reading the file of a path gives now. -/
def readFile (path : Path) : IO (Except FileFault (List UInt8)) := do
  match ← (IO.FS.readBinFile path.text).toBaseIO with
  | .ok bytes => return .ok bytes.toList
  | .error e => return .error (fileFault e)

/-- The file system as it is now, on the paths of some inputs. -/
def readInputs (inputs : List String) : IO FileSystem := do
  let table ← (inputs.map Path.ofString).mapM fun path => return (path, ← readFile path)
  return fun path => (table.lookup path).getD (.error .notFound)

/-- The inputs that arguments name. -/
def inputsOf (arguments : List String) : List String :=
  match CommandLine.parse arguments with
  | .ok content => content.inputs
  | .error _ => []

/-- The exit code of an ending, and the line about an error that escaped. -/
def exitOf : Program.Ending → UInt32 × String
  | .returns code | .exits code => (code.toUInt32, "")
  | .escapes e => (1, e.message ++ "\n")
  | .missingValue => (1, CommandLine.Refusal.missingValue.message ++ "\n")

/-- Run the command: call the program on the process's files and streams. -/
def run (arguments : List String) : IO UInt32 := do
  let files ← readInputs (inputsOf arguments)
  let time := (← Std.Time.PlainTime.now).format "HH:mm:ss"
  let stdout ← IO.getStdout
  let sink : Sink := { terminal := some (← stdout.isTty) }
  let call := Program.call (.ofFiles files) time sink {} arguments
  stdout.putStr call.sink.output
  stdout.flush
  let (code, report) := exitOf call.ending
  (← IO.getStderr).putStr (call.errorOutput ++ report)
  return code

end StoryLint.Command

/-- The command with the arguments of the process. -/
def main (arguments : List String) : IO UInt32 :=
  StoryLint.Command.run arguments
