import StoryLint.Issue.Basic
import StoryLint.Json.Basic
import StoryLint.Order.MergeSort

/-!
# The order of issues

Issues without a context come first, then those in text without a file, then the others by the
position at which they start, whatever their file. Two issues without a context are each less
than the other, and so are two issues without a file: sorting turns the order of such issues
round, and keeps the order of issues at equal positions.

`sortEntries` sorts entries that may turn out not to be issues; the first one that is compared is
the error then.
-/

namespace StoryLint

namespace Issue

/-- Compare two contexts. -/
def compareContexts : Option SourceContext → Option SourceContext → Ordering
  | none, _ => .lt
  | some _, none => .gt
  | some left, some right =>
      match left.fileName, right.fileName with
      | none, _ => .lt
      | some _, none => .gt
      | some _, some _ =>
          if left.startPosition < right.startPosition then .lt
          else if right.startPosition < left.startPosition then .gt
          else .eq

/-- Compare two issues by their contexts. -/
def compare (left right : Issue) : Ordering :=
  compareContexts left.context right.context

/-- Whether an issue is less than another. -/
def less (left right : Issue) : Bool :=
  compare left right = .lt

/-- Items in the order in which a report has the issues that they stand for. -/
def sortBy {α : Type} (issue : α → Issue) (items : List α) : List α :=
  Order.sort (fun a b => (issue a).less (issue b)) items

/-- The issues in the order of a report. -/
def sort (issues : List Issue) : List Issue :=
  sortBy id issues

end Issue

/-- An entry of a list that should hold issues: an issue, or some other value. -/
inductive Entry where
  | issue (i : Issue)
  | other (value : Json)
deriving Repr

/-- A value that is no issue. -/
structure NotAnIssue where
  value : Json
deriving Repr

/-- The error text, unless the value cannot be written. -/
def NotAnIssue.message (e : NotAnIssue) : Except Number.TooManyDigits String := do
  return "not an issue: " ++ (← e.value.shown)

namespace Entry

/-- The issue that an entry is. -/
def toIssue : Entry → Except NotAnIssue Issue
  | issue i => .ok i
  | other value => .error ⟨value⟩

/-- Compare two entries; the left one has to be an issue first. -/
def compare (left right : Entry) : Except NotAnIssue Ordering := do
  return Issue.compare (← left.toIssue) (← right.toIssue)

/-- Whether an entry is less than another. -/
def less (left right : Entry) : Except NotAnIssue Bool := do
  return Issue.less (← left.toIssue) (← right.toIssue)

end Entry

/-- Sort items by the entries that they stand for. -/
def sortEntries {α : Type} (entry : α → Entry) (items : List α) : Except NotAnIssue (List α) :=
  Order.sortM (fun a b => (entry a).less (entry b)) items

end StoryLint
