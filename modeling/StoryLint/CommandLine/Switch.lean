import StoryLint.Terminal.ColorChoice

/-!
# Switches of the command line

The switches that the program knows, their spellings, and the texts that describe them. A switch
takes a value or none; long spellings may be shortened as long as they stay unambiguous.
-/

namespace StoryLint.CommandLine

/-- The name under which the program is called. -/
def programName : String := "tweec-lint"

/-- The version of the program. -/
def programVersion : String := "0.2.0"

/-- A switch. -/
inductive Switch where
  | help
  | version
  | allow
  | deny
  | compact
  | color
  | verbose
deriving DecidableEq, Repr

namespace Switch

/-- Whether a switch takes a value. -/
def takesValue : Switch → Bool
  | allow | deny | color => true
  | help | version | compact | verbose => false

/-- The name of a switch in an error text: all its spellings. -/
def label : Switch → String
  | help => "-h/--help"
  | version => "--version"
  | allow => "-a/--allow"
  | deny => "-D/--deny"
  | compact => "--compact"
  | color => "--color"
  | verbose => "-v/--verbose"

/-- The spellings of the switches, in the order in which they are listed. -/
def spellings : List (String × Switch) :=
  [("-h", help), ("--help", help), ("--version", version), ("-a", allow), ("--allow", allow),
   ("-D", deny), ("--deny", deny), ("--compact", compact), ("--color", color), ("-v", verbose),
   ("--verbose", verbose)]

/-- The switch of a full spelling. -/
def ofSpelling? (spelling : List Char) : Option Switch :=
  spellings.lookup (String.ofList spelling)

end Switch

/-- How to call the program. -/
def usageText : String :=
  "usage: tweec-lint [-h] [--version] [-a NAME] [-D NAME] [--compact]\n" ++
  "                  [--color \x7balways,ansi,auto,never\x7d] [-v]\n" ++
  "                  DUMP [DUMP ...]\n"

/-- What the program does and what its arguments mean. -/
def helpText : String :=
  usageText ++
  "\nReport the warnings and errors of a Twee story from a front-end dump, applying\n" ++
  "allow/deny policy.\n" ++
  "\npositional arguments:\n" ++
  "  DUMP                  Front-end dump file(s) to report on.\n" ++
  "\noptions:\n" ++
  "  -h, --help            show this help message and exit\n" ++
  "  --version             show program's version number and exit\n" ++
  "  -a NAME, --allow NAME\n" ++
  "                        Warning to ignore; 'all' ignores every warning.\n" ++
  "                        Overrides --deny.\n" ++
  "  -D NAME, --deny NAME  Warning to treat as an error; 'all' denies every\n" ++
  "                        warning.\n" ++
  "  --compact             Print one line per issue without source snippets.\n" ++
  "  --color \x7balways,ansi,auto,never\x7d\n" ++
  "                        When to colour the output (default: auto).\n" ++
  "  -v, --verbose         Increase logging verbosity (-v info, -vv debug).\n"

/-- The program and its version. -/
def versionText : String :=
  programName ++ " " ++ programVersion ++ "\n"

/-- Why a command line cannot be understood. -/
inductive UsageError where
  | ambiguous (argument : String) (matching : List String)
  | expectedArgument (switch : Switch)
  | ignoredArgument (switch : Switch) (argument : String)
  | invalidColor (word : String)
  | missingInputs
  | unrecognized (arguments : List String)
deriving DecidableEq, Repr

/-- The error text. -/
def UsageError.message : UsageError → String
  | ambiguous argument matching =>
      "ambiguous option: " ++ argument ++ " could match " ++ ", ".intercalate matching
  | expectedArgument switch => "argument " ++ switch.label ++ ": expected one argument"
  | ignoredArgument switch argument =>
      "argument " ++ switch.label ++ ": ignored explicit argument " ++ Text.quoted argument
  | invalidColor word =>
      "argument " ++ Switch.label .color ++ ": invalid choice: " ++ Text.quoted word ++
        " (choose from " ++ ", ".intercalate (ColorChoice.all.map fun c => Text.quoted c.name) ++
        ")"
  | missingInputs => "the following arguments are required: DUMP"
  | unrecognized arguments => "unrecognized arguments: " ++ " ".intercalate arguments

/-- An end of the program before it runs: help or version is asked for, or the command line is
wrong. -/
inductive EarlyExit where
  | help
  | version
  | usage (e : UsageError)
deriving DecidableEq, Repr

namespace EarlyExit

/-- The exit code. -/
def code : EarlyExit → Nat
  | help | version => 0
  | usage _ => 2

/-- What is written to the output. -/
def output : EarlyExit → String
  | help => helpText
  | version => versionText
  | usage _ => ""

/-- What is written to the error output. -/
def errorOutput : EarlyExit → String
  | help | version => ""
  | usage e => usageText ++ programName ++ ": error: " ++ e.message ++ "\n"

end EarlyExit

end StoryLint.CommandLine
