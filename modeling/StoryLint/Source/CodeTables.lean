import StoryLint.Fields
import StoryLint.Source.CodeMap

/-!
# The tables of a code map

A code map is kept in three tables: the ids of the names, and by id the contexts that cover the
files and the offsets at which their lines start. Adding a file writes to one table after the
other; a look-up checks its id first, because an entry of a table can be read with a negative
index too.

`CodeTables.ofMap` are the tables of a code map.
-/

namespace StoryLint

/-- The ids of the names, and the contexts and line starts in the order of the ids. -/
structure CodeTables where
  ids : List (String × Nat) := []
  contexts : List SourceContext := []
  lineStarts : List (List Nat) := []
deriving DecidableEq, Repr

/-- A table has no entry at an index. -/
structure NoEntry where
  index : Int
deriving DecidableEq, Repr

namespace CodeTables

variable {α : Type}

/-- The entry of a table at an index. A negative index counts from the end. -/
def entry (table : List α) (index : Int) : Except NoEntry α :=
  let place := if index < 0 then table.length + index else index
  match if place < 0 then none else table[place.toNat]? with
  | some item => .ok item
  | none => .error ⟨index⟩

/-- The number of files. -/
def size (tables : CodeTables) : Nat :=
  tables.contexts.length

/-- The names of the files, in the order in which they were added. -/
def names (tables : CodeTables) : List String :=
  tables.ids.map (·.1)

/-- The id of a name. -/
def idOf? (tables : CodeTables) (name : String) : Option Nat :=
  Fields.get? name tables.ids

/-- Add a file and give its id. A name that is there already is refused before anything is
written. -/
def add (file : SourceFile) : StateM CodeTables (Except DuplicateFile Nat) := do
  let tables ← get
  if (tables.idOf? file.name).isSome then
    return .error ⟨file.name⟩
  else
    let id := tables.size
    modify fun tables => { tables with ids := Fields.set file.name id tables.ids }
    modify fun tables => { tables with contexts := tables.contexts ++ [file.context] }
    modify fun tables => { tables with lineStarts := tables.lineStarts ++ [file.lineStarts] }
    return .ok id

/-- Add files one after the other, whatever is refused, with the answers. -/
def addAll : List SourceFile → StateM CodeTables (List (Except DuplicateFile Nat))
  | [] => return []
  | file :: rest => do
      let answer ← add file
      let answers ← addAll rest
      return answer :: answers

/-- Whether an id is that of a file. -/
def isValid (tables : CodeTables) (id : Int) : Bool :=
  0 ≤ id && id < tables.size

/-- The name of an id. -/
def name? (tables : CodeTables) (id : Int) : Except NoEntry (Option String) :=
  if tables.isValid id then (·.fileName) <$> entry tables.contexts id else .ok none

/-- The context that covers the file of an id. -/
def context? (tables : CodeTables) (id : Int) : Except NoEntry (Option SourceContext) :=
  if tables.isValid id then some <$> entry tables.contexts id else .ok none

/-- The line starts of the file of an id. -/
def lineStarts? (tables : CodeTables) (id : Int) : Except NoEntry (Option (List Nat)) :=
  if tables.isValid id then some <$> entry tables.lineStarts id else .ok none

/-- The text of the file of an id. -/
def source? (tables : CodeTables) (id : Int) : Except NoEntry (Option String) :=
  Option.map (·.contents) <$> tables.context? id

/-- The first of some line starts that is not less than an offset, by halving. -/
def linePlace (starts : List Nat) (offset : Int) : Nat :=
  Order.bisectM (m := Id) (fun (start : Nat) => pure (decide (start < offset))) starts 0
    starts.length (Nat.le_refl _)

/-- The index of the line of the file of an id that holds an offset. The entry at the place of the
offset is read only if there is one; if it is not the offset itself, the line is the one before. -/
def lineIndex? (tables : CodeTables) (id : Int) (offset : Int) : Except NoEntry (Option Nat) := do
  match ← tables.lineStarts? id with
  | none => return none
  | some starts =>
      let place := linePlace starts offset
      let startsThere ←
        if place < starts.length then
          (fun (start : Nat) => decide (start = offset)) <$> entry starts place
        else pure false
      return if startsThere then some place else if place = 0 then none else some (place - 1)

/-- The range of a line of the file of an id. The last line ends with the text. -/
def lineRange? (tables : CodeTables) (id : Int) (line : Int) :
    Except NoEntry (Option (Nat × Nat)) := do
  if tables.isValid id then
    let starts ← entry tables.lineStarts id
    if 1 ≤ line ∧ line ≤ starts.length then
      let start ← entry starts (line - 1)
      let stop ←
        if line < starts.length then entry starts line
        else (·.text.length) <$> entry tables.contexts id
      return some (start, stop)
    else return none
  else return none

/-- The tables of a code map. -/
def ofMap (map : CodeMap) : CodeTables where
  ids := map.files.zipIdx.map fun (file, id) => (file.name, id)
  contexts := map.files.map (·.context)
  lineStarts := map.files.map (·.lineStarts)

end CodeTables

end StoryLint
