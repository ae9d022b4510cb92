import StoryLint.Defect.Kind
import StoryLint.Source.Context

/-!
# Warnings and errors of a story

A warning is a defect that a story can live with, an error one that it cannot. Both have a kind,
may have a detail for the message, and may have a context: the place in the story. A warning can
refer to an earlier place too, which counts only if the warning has a place of its own.
-/

namespace StoryLint

/-- A defect that does not stop the story. -/
structure Warning where
  kind : WarningKind
  detail : Option String := none
  context : Option SourceContext := none
  referent : Option SourceContext := none
deriving DecidableEq, Repr

/-- A defect that stops the story. -/
structure ParseError where
  kind : ErrorKind
  detail : Option String := none
  context : Option SourceContext := none
deriving DecidableEq, Repr

namespace Warning

/-- The stable name of the warning's kind. -/
def name (w : Warning) : String :=
  w.kind.name

/-- The message without its place. -/
def message (w : Warning) : String :=
  w.kind.template.format w.detail

/-- The earlier place that the warning points back to. -/
def earlier? (w : Warning) : Option SourceContext :=
  w.context.bind fun _ => w.referent

/-- The message with its place in front. -/
def text (w : Warning) : String :=
  SourceContext.locate w.context w.message

end Warning

namespace ParseError

/-- The stable name of the error's kind. -/
def name (e : ParseError) : String :=
  e.kind.name

/-- The message without its place. -/
def message (e : ParseError) : String :=
  e.kind.template.format e.detail

/-- The message with its place in front. -/
def text (e : ParseError) : String :=
  SourceContext.locate e.context e.message

end ParseError

end StoryLint
