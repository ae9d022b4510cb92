import StoryLint.Order.Search
import StoryLint.Source.Context
import StoryLint.Text.Quoted

/-!
# Code maps

A code map holds the files of a story. A file's id is its place in the order in which the files
were added, and no two files have one name. Lines are numbered from one; a line's range includes
the newline that ends it.
-/

namespace StoryLint

/-- A named text. -/
structure SourceFile where
  name : String
  text : String
deriving DecidableEq, Repr

namespace SourceFile

/-- The offsets at which the lines of a text start, the text itself starting at `offset`. -/
def startsFrom (offset : Nat) : List Char → List Nat
  | [] => []
  | c :: rest =>
      if c = '\n' then (offset + 1) :: startsFrom (offset + 1) rest
      else startsFrom (offset + 1) rest

/-- The offsets at which the lines start; the first line starts at zero. -/
def lineStarts (file : SourceFile) : List Nat :=
  0 :: startsFrom 0 file.text.toList

/-- The range of a line, by its number. -/
def lineRange? (file : SourceFile) (line : Int) : Option (Nat × Nat) :=
  if line < 1 then none
  else
    let index := (line - 1).toNat
    file.lineStarts[index]?.map fun start =>
      (start, file.lineStarts[index + 1]?.getD file.text.length)

/-- The first line that does not start before an offset, by halving the table of line starts. -/
def linePlace (file : SourceFile) (offset : Int) : Nat :=
  Order.bisectM (m := Id) (fun (start : Nat) => pure (decide (start < offset))) file.lineStarts 0
    file.lineStarts.length (Nat.le_refl _)

/-- The index of the line that holds an offset, counted from zero. An offset at which no line
starts belongs to the line before its place. So offsets past the end belong to the last line, and
negative offsets to none. -/
def lineIndex? (file : SourceFile) (offset : Int) : Option Nat :=
  let place := file.linePlace offset
  if file.lineStarts[place]?.any fun (start : Nat) => start = offset then some place
  else if place = 0 then none
  else some (place - 1)

/-- The context that covers the file. -/
def context (file : SourceFile) : SourceContext :=
  .whole (some file.name) file.text

end SourceFile

/-- The files of a story, in the order of their ids. -/
structure CodeMap where
  files : List SourceFile := []
  names_nodup : (files.map SourceFile.name).Nodup := by exact List.nodup_nil
deriving DecidableEq, Repr

/-- A file was added under a name that another file has. -/
structure DuplicateFile where
  name : String
deriving DecidableEq, Repr

/-- The error text. -/
def DuplicateFile.message (e : DuplicateFile) : String :=
  "duplicate file in code map: " ++ Text.quoted e.name

namespace CodeMap

/-- The map without files. -/
instance : Inhabited CodeMap := ⟨{}⟩

/-- The names of the files, in the order of their ids. -/
def names (map : CodeMap) : List String :=
  map.files.map SourceFile.name

/-- The number of files. -/
def size (map : CodeMap) : Nat :=
  map.files.length

/-- Add a file. Its id is the number of files before it. -/
def add (map : CodeMap) (file : SourceFile) : Except DuplicateFile CodeMap :=
  if h : file.name ∈ map.names then .error ⟨file.name⟩
  else .ok
    { files := map.files ++ [file]
      names_nodup := by
        rw [List.map_append, List.nodup_append]
        refine ⟨map.names_nodup, by simp, ?_⟩
        intro a ha b hb hab
        simp only [List.map_cons, List.map_nil, List.mem_singleton] at hb
        exact h (by rw [← hb, ← hab]; exact ha) }

/-- The code map of a list of files. -/
def ofFiles (files : List SourceFile) : Except DuplicateFile CodeMap :=
  files.foldlM add {}

/-- The file of an id. -/
def file? (map : CodeMap) (id : Int) : Option SourceFile :=
  if id < 0 then none else map.files[id.toNat]?

/-- The id of a name. -/
def idOf? (map : CodeMap) (name : String) : Option Nat :=
  map.files.findIdx? (·.name = name)

/-- The name of an id. -/
def name? (map : CodeMap) (id : Int) : Option String :=
  (map.file? id).map (·.name)

/-- The context that covers the file of an id. -/
def context? (map : CodeMap) (id : Int) : Option SourceContext :=
  (map.file? id).map (·.context)

/-- The line starts of the file of an id. -/
def lineStarts? (map : CodeMap) (id : Int) : Option (List Nat) :=
  (map.file? id).map (·.lineStarts)

/-- The range of a line of the file of an id. -/
def lineRange? (map : CodeMap) (id : Int) (line : Int) : Option (Nat × Nat) :=
  (map.file? id).bind (·.lineRange? line)

/-- The text of a file by its name. -/
def text? (map : CodeMap) (name : String) : Option String :=
  (map.files.find? (·.name = name)).map (·.text)

end CodeMap

end StoryLint
