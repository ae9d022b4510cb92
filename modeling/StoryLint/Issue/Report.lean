import StoryLint.Diagnostic.Layout
import StoryLint.Issue.Basic
import StoryLint.Link
import StoryLint.Similarity

/-!
# Reports on issues

An issue is reported as one line, `severity: text`, or as a diagnostic. A diagnostic has labels
and notes only if the issue's place is in a known file. A dead link gets a note with the name of
a similar passage, a link with blanks around its target one with the repaired link.
-/

namespace StoryLint

namespace Issue

/-- The note that may help to mend an issue. -/
def suggestion? (issue : Issue) (files : StoryFiles) : Option String :=
  match issue with
  | error _ => none
  | warning w _ =>
      match w.kind with
      | .deadLink =>
          w.detail.bind fun target => Similarity.deadLinkNote? target files.passageNames
      | .whitespaceInLink => w.context.bind fun c => Link.repairNote? c.contents
      | _ => none

/-- What the second label of a diagnostic says. -/
def earlierMessage : String :=
  "Previously defined here. Duplicate discarded."

/-- The diagnostic of an issue. -/
def diagnostic (issue : Issue) (files : StoryFiles) : Diagnostic :=
  let bare : Diagnostic :=
    { severity := issue.severity, message := issue.message, code := issue.name }
  match files.resolve? issue.context with
  | none => bare
  | some (id, (start, stop)) =>
      let earlier := (files.resolve? issue.earlier?).map fun (id, (start, stop)) =>
        { style := .secondary, fileId := id, start, stop, message := earlierMessage : Label }
      { bare with
        labels := { style := .primary, fileId := id, start, stop : Label } :: earlier.toList
        notes := (issue.suggestion? files).toList }

/-- The severity in front of a compact line. -/
def compactSeverity (issue : Issue) : Span :=
  .styled (.boldIn issue.severity.color) (issue.severity.label ++ ": ")

/-- The texts that a compact report on an issue writes: the severity, then the line. -/
def compactTexts (colored : Bool) (issue : Issue) : List String :=
  [issue.compactSeverity.render colored, issue.text ++ "\n"]

/-- The texts that a report on issues writes, one after the other. -/
def reportTexts (colored compact : Bool) (files : StoryFiles) (issues : List Issue) :
    List String :=
  if compact then issues.flatMap (compactTexts colored)
  else issues.map fun issue => (issue.diagnostic files).render colored files

end Issue

end StoryLint
