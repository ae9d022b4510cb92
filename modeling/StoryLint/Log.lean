/-!
# Log records

The program reports on its own work by log records. A record has a level, the part of the program
that it comes from, and a message. A `LogSession` decides which records are written: those of its
level and above, once for every handler that has been installed. A session is configured at the
start of each run; the handler is installed the first time only.
-/

namespace StoryLint

/-- How important a record is. -/
inductive LogLevel where
  | debug
  | info
  | warning
  | error
deriving DecidableEq, Repr

namespace LogLevel

/-- The rank of a level. -/
def rank : LogLevel → Nat
  | debug => 0
  | info => 1
  | warning => 2
  | error => 3

/-- The name of a level in a record, five characters wide. -/
def tag : LogLevel → String
  | debug => "DEBUG"
  | info => "INFO "
  | warning => "WARNI"
  | error => "ERROR"

/-- The least level that a verbosity shows. -/
def ofVerbosity (verbosity : Int) : LogLevel :=
  if verbosity = 1 then info else if 2 ≤ verbosity then debug else warning

end LogLevel

/-- The parts of the program that write records. -/
inductive LogSource where
  | program
  | dump
  | issue
  | linter
  | storyFiles
deriving DecidableEq, Repr

/-- The name of a part of the program in a record. -/
def LogSource.name : LogSource → String
  | program => "tweec"
  | dump => "tweec.dump"
  | issue => "tweec.issue"
  | linter => "tweec.linter"
  | storyFiles => "tweec.story_files"

/-- A log record. -/
structure LogRecord where
  level : LogLevel
  source : LogSource
  message : String
deriving DecidableEq, Repr

/-- The line of a record, written at a time of day. -/
def LogRecord.line (time : String) (record : LogRecord) : String :=
  time ++ " [" ++ record.level.tag ++ "] " ++ record.source.name ++ ": " ++ record.message ++ "\n"

/-- Which records are written: the least level, and the number of handlers. -/
structure LogSession where
  level : LogLevel := .warning
  handlers : Nat := 0
deriving DecidableEq, Repr

namespace LogSession

/-- Set the level for a run, and install a handler if there is none. -/
def configure (session : LogSession) (verbosity : Int) : LogSession :=
  { level := .ofVerbosity verbosity
    handlers := if session.handlers = 0 then 1 else session.handlers }

/-- Whether a record is written. -/
def shows (session : LogSession) (record : LogRecord) : Bool :=
  session.level.rank ≤ record.level.rank

/-- What a session writes for records: a line for each record shown and each handler. -/
def transcript (session : LogSession) (time : String) (records : List LogRecord) : String :=
  String.join ((records.filter session.shows).flatMap fun record =>
    List.replicate session.handlers (record.line time))

end LogSession

end StoryLint
