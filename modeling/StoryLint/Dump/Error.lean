import StoryLint.Defect.Kind
import StoryLint.Json.Parser
import StoryLint.Source.Context

/-!
# Faults of dumps

A dump is the JSON document in which the front end of a story compiler states what it found. A
dump that does not have the documented form is answered with the place of the first fault in it
and the reason. Some values keep a dump from being read without such an answer (`Obstacle`).
-/

namespace StoryLint.Dump

/-- The three lists of a dump. -/
inductive EntryList where
  | warnings
  | errors
  | passages
deriving DecidableEq, Repr

/-- The field of the document that holds a list. -/
def EntryList.name : EntryList → String
  | warnings => "warnings"
  | errors => "errors"
  | passages => "passages"

/-- A place in a dump: the document, the files, one of them, a list, a field within an entry of a
list, or the title. -/
inductive Place where
  | document
  | files
  | file (name : String)
  | list (list : EntryList)
  | entry (list : EntryList) (index : Nat) (fields : List String)
  | title
deriving DecidableEq, Repr

namespace Place

/-- The place as the name of a field; the document itself has none. -/
def key? : Place → Option String
  | document => none
  | files => some "files"
  | file name => some ("files." ++ name)
  | list l => some l.name
  | entry l index fields =>
      some (l.name ++ "[" ++ toString index ++ "]" ++ String.join (fields.map ("." ++ ·)))
  | title => some "title"

/-- A field within an entry. -/
def field (name : String) : Place → Place
  | entry l index fields => entry l index (fields ++ [name])
  | place => place

end Place

/-- Why a dump does not have the documented form. -/
inductive Reason where
  | invalidJson (e : Json.SyntaxError)
  | notAnObject
  | filesNotAnObject
  | fileNotText
  | notAnArray
  | entryNotAnObject
  | missingKind
  | unknownKind (e : UnknownKind)
  | detailNotText
  | unknownFile (shown : String)
  | textNotText
  | offsetNotInteger
  | range (e : RangeError)
  | passageNameNotText
  | tagsNotTexts
  | titleNotText
deriving DecidableEq, Repr

/-- The reason in words. -/
def Reason.message : Reason → String
  | invalidJson e => "invalid JSON: " ++ e.message
  | notAnObject => "dump must be a JSON object"
  | filesNotAnObject => "expected an object of file name -> text"
  | fileNotText => "file text must be a string"
  | notAnArray => "expected an array"
  | entryNotAnObject => "expected an object"
  | missingKind => "missing kind"
  | unknownKind e => e.message
  | detailNotText => "detail must be a string"
  | unknownFile shown => "unknown file " ++ shown
  | textNotText => "text must be a string"
  | offsetNotInteger => "start/end must be integers"
  | range e => e.message
  | passageNameNotText => "passage name must be a string"
  | tagsNotTexts => "tags must be an array of strings"
  | titleNotText => "title must be a string"

/-- The text of an error in a dump: the dump, the key of the place, and the reason. An absent or
empty source reads as `<dump>`, an absent or empty key is left out. -/
def describe (source key : Option String) (reason : String) : String :=
  let name := source.getD ""
  let key := key.getD ""
  (if name.isEmpty then "<dump>" else name) ++
    (if key.isEmpty then "" else " [" ++ key ++ "]") ++ ": " ++ reason

/-- A fault of a dump. `source` names the dump. -/
structure Malformed where
  source : Option String
  place : Place
  reason : Reason
deriving DecidableEq, Repr

/-- The error text. -/
def Malformed.message (e : Malformed) : String :=
  describe e.source e.place.key? e.reason.message

/-- A value that is neither taken nor answered as a fault: a container cannot be looked up as a
file name, and an integer with too many digits cannot be written, neither as the content of a
passage nor in a reason. -/
inductive Obstacle where
  | container (c : Container)
  | tooManyDigits (e : Number.TooManyDigits)
deriving DecidableEq, Repr

/-- The error text. -/
def Obstacle.message : Obstacle → String
  | container .array => "unhashable type: 'list'"
  | container .object => "unhashable type: 'dict'"
  | tooManyDigits e => e.message

/-- Why a document is not read: it is malformed, or reading it meets an obstacle. -/
inductive Failure where
  | malformed (e : Malformed)
  | obstacle (o : Obstacle)
deriving DecidableEq, Repr

/-- The error text. -/
def Failure.message : Failure → String
  | malformed e => e.message
  | obstacle o => o.message

end StoryLint.Dump
