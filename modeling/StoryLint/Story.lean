import StoryLint.Defect.Basic
import StoryLint.Fields
import StoryLint.Source.StoryFiles
import StoryLint.Json.Basic

/-!
# Stories

A story has a title, if it is given one, and passages; no two passages have one name. What a dump
holds is a story, or the errors that kept it from being one, together with the warnings.
-/

namespace StoryLint

/-- A passage of a story. -/
structure Passage where
  name : String
  tags : List String := []
  content : String := ""
  context : Option SourceContext := none
deriving DecidableEq, Repr

/-- A story without errors. -/
structure Story where
  codeMap : CodeMap
  title : Option String := none
  passages : List Passage := []
deriving DecidableEq, Repr

/-- The passages of a story: of passages with one name the last one, in the place of the first. -/
def Passage.distinct (passages : List Passage) : List Passage :=
  (Fields.distinct (passages.map fun p => (p.name, p))).map (·.2)

/-- The names of the passages, in order. -/
def Story.passageNames (story : Story) : List String :=
  story.passages.map (·.name)

/-- A story, or the errors that were found in it. -/
inductive StoryResult where
  | story (s : Story)
  | errors (list : List ParseError) (codeMap : CodeMap)
deriving DecidableEq, Repr

namespace StoryResult

/-- The errors of a story. -/
def errorList : StoryResult → List ParseError
  | story _ => []
  | errors list _ => list

/-- The files of a story. -/
def codeMap : StoryResult → CodeMap
  | story s => s.codeMap
  | errors _ map => map

end StoryResult

/-- A story, or its errors, with the warnings. -/
structure StoryOutput where
  result : StoryResult
  warnings : List Warning
deriving DecidableEq, Repr

/-- The files for a report on a story. Passage names are known only if there is a story. -/
def StoryFiles.ofResult : StoryResult → StoryFiles
  | .story s => { codeMap := s.codeMap, passageNames := some s.passageNames }
  | .errors _ map => { codeMap := map }

/-- A value that is no result of reading a story. -/
structure NotAResult where
  value : Json
deriving Repr

/-- The error text, unless the value cannot be written. -/
def NotAResult.message (e : NotAResult) : Except Number.TooManyDigits String := do
  return "not a story result: " ++ (← e.value.shown)

end StoryLint
