import StoryLint.Terminal.Style

/-!
# Diagnostics

A diagnostic is what a rich report says about one issue: a severity, a message with a stable
code, labels that point at ranges of files, and notes. A primary label marks the place of the
issue, a secondary label a place that has to do with it.
-/

namespace StoryLint

/-- How bad an issue is. -/
inductive Severity where
  | error
  | warning
deriving DecidableEq, Repr

namespace Severity

/-- The word of a compact report. -/
def label : Severity → String
  | error => "Error"
  | warning => "Warning"

/-- The word of a rich report. -/
def codeName : Severity → String
  | error => "error"
  | warning => "warning"

/-- The colour of a severity. -/
def color : Severity → Color
  | error => .red
  | warning => .yellow

end Severity

/-- The two styles of a label. -/
inductive LabelStyle where
  | primary
  | secondary
deriving DecidableEq, Repr

namespace LabelStyle

/-- The character that underlines a range. -/
def mark : LabelStyle → Char
  | primary => '^'
  | secondary => '-'

/-- The arrow in front of a location. -/
def arrow : LabelStyle → String
  | primary => "-->"
  | secondary => ":::"

end LabelStyle

/-- A range of a file, with a message about it. File id and range may be anything; a label that
points nowhere is not shown. -/
structure Label where
  style : LabelStyle
  fileId : Int
  start : Int
  stop : Int
  message : String := ""
deriving DecidableEq, Repr

/-- What a rich report says about one issue. -/
structure Diagnostic where
  severity : Severity
  message : String
  code : String
  labels : List Label := []
  notes : List String := []
deriving DecidableEq, Repr

/-- The first primary label. -/
def Diagnostic.primaryLabel? (d : Diagnostic) : Option Label :=
  d.labels.find? (·.style = .primary)

end StoryLint
