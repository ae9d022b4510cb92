import StoryLint.Source.CodeMap

/-!
# The files of a report

`StoryFiles` is what the rendering of a report knows of a story: its files, and the names of its
passages. The names are absent when the story has parse errors, because passages are not
reliable then. Line indices count from zero here.
-/

namespace StoryLint

/-- The files of a story and the names of its passages, if they are known. -/
structure StoryFiles where
  codeMap : CodeMap
  passageNames : Option (List String) := none
deriving DecidableEq, Repr

namespace StoryFiles

/-- The name of a file. -/
def name? (files : StoryFiles) (id : Int) : Option String :=
  files.codeMap.name? id

/-- The text of a file. -/
def source? (files : StoryFiles) (id : Int) : Option String :=
  (files.codeMap.context? id).map (·.contents)

/-- The id of a file name. -/
def idOf? (files : StoryFiles) (name : String) : Option Nat :=
  files.codeMap.idOf? name

/-- The index of the line of a file that holds an offset. -/
def lineIndex? (files : StoryFiles) (id : Int) (offset : Int) : Option Nat :=
  (files.codeMap.file? id).bind (·.lineIndex? offset)

/-- The range of a line of a file, by the line's index. -/
def lineRange? (files : StoryFiles) (id : Int) (index : Int) : Option (Nat × Nat) :=
  files.codeMap.lineRange? id (index + 1)

/-- The file id and the range of a context. Only a context of a known file has them. -/
def resolve? (files : StoryFiles) (context : Option SourceContext) :
    Option (Nat × (Int × Int)) := do
  let c ← context
  let name ← c.fileName
  let id ← files.idOf? name
  return (id, c.span)

end StoryFiles

end StoryLint
