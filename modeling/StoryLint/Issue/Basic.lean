import StoryLint.Defect.Basic
import StoryLint.Diagnostic.Basic

/-!
# Issues

An issue is what a report is about: an error of the story, or a warning with the verdict of the
policy on it. Errors are always fatal; a warning is fatal if it is denied.
-/

namespace StoryLint

/-- An error, or a warning that the policy did not ignore. -/
inductive Issue where
  | error (e : ParseError)
  | warning (w : Warning) (denied : Bool)
deriving DecidableEq, Repr

namespace Issue

/-- The stable name of the issue's kind. -/
def name : Issue → String
  | error e => e.name
  | warning w _ => w.name

/-- The message without its place. -/
def message : Issue → String
  | error e => e.message
  | warning w _ => w.message

/-- The place of the issue. -/
def context : Issue → Option SourceContext
  | error e => e.context
  | warning w _ => w.context

/-- The earlier place that the issue points back to. -/
def earlier? : Issue → Option SourceContext
  | error _ => none
  | warning w _ => w.earlier?

/-- Errors and denied warnings are errors, other warnings are warnings. -/
def severity : Issue → Severity
  | error _ => .error
  | warning _ denied => if denied then .error else .warning

/-- The message with its place in front. -/
def text : Issue → String
  | error e => e.text
  | warning w _ => w.text

end Issue

end StoryLint
