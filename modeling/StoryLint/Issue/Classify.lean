import StoryLint.Config
import StoryLint.Issue.Order
import StoryLint.Log
import StoryLint.Story

/-!
# Classification by policy

The policy turns the warnings of a story into issues: a warning that it allows is dropped, any
other one is kept with the mark whether it is denied. Every error of the story is an issue. The
run fails if a warning is denied, or if there is no story but only its errors.
-/

namespace StoryLint

/-- The issue of a warning, unless the policy ignores it. -/
def Policy.verdict? (policy : Policy) (w : Warning) : Option Issue :=
  if policy.allows w.name then none else some (.warning w (policy.denies w.name))

/-- The issues of a story and whether they make the run fail. -/
structure Classification where
  issues : List Issue
  isFailure : Bool
deriving DecidableEq, Repr

namespace Classification

/-- Classify the warnings and errors of a story, warnings first. -/
def ofResult (result : StoryResult) (warnings : List Warning) (policy : Policy) :
    Classification :=
  let kept := warnings.filterMap policy.verdict?
  { issues := kept ++ result.errorList.map .error
    isFailure :=
      kept.any (·.severity = .error) ||
        match result with
        | .story _ => false
        | .errors _ _ => true }

/-- The classification with its issues in the order of a report. -/
def sorted (c : Classification) : Classification :=
  { c with issues := Issue.sort c.issues }

/-- The log record of a classification. -/
def record (c : Classification) : LogRecord :=
  { level := .debug
    source := .issue
    message := "classified " ++ toString c.issues.length ++ " issue(s), failure=" ++
      Json.boolText c.isFailure }

end Classification

end StoryLint
