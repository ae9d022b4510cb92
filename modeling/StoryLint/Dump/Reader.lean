import StoryLint.Dump.Error
import StoryLint.Log
import StoryLint.Story

/-!
# Reading dumps

`Dump.read` reads the story, or its errors, and the warnings from a JSON document. The parts are
read in the order files, warnings, errors, passages, title; passages and title are not looked at
if there are errors. The first fault in this order is the answer.

A context is an object with the fields `file`, `start` and `end`; without a file it may carry its
`text`. `null` stands for an absent context, detail or list.
-/

namespace StoryLint.Dump

/-- A fault before the name of the dump is put to it. -/
inductive Fault where
  | malformed (place : Place) (reason : Reason)
  | obstacle (o : Obstacle)
deriving DecidableEq, Repr

/-- The fields of an object. -/
abbrev Object := List (String × Json)

/-- A field; a field that is `null` counts as absent. -/
def present? (object : Object) (name : String) : Option Json :=
  match Fields.get? name object with
  | some .null => none
  | field => field

/-- The fields of a value that has to be an object. -/
def readObject (place : Place) : Json → Except Fault Object
  | .object fields => .ok fields
  | _ => .error (.malformed place .entryNotAnObject)

/-- Read the entries of a list, the first of which has the given index. -/
def readEntries {α : Type} (read : Nat → Json → Except Fault α) (index : Nat) :
    List Json → Except Fault (List α)
  | [] => return []
  | entry :: rest => do
      let first ← read index entry
      let others ← readEntries read (index + 1) rest
      return first :: others

/-- The entries of a list of the document; an absent list has none. -/
def entries (document : Object) (list : EntryList) : Except Fault (List Json) :=
  match present? document list.name with
  | none => .ok []
  | some (.array items) => .ok items
  | some _ => .error (.malformed (.list list) .notAnArray)

/-! ## Contexts -/

/-- The offset that a value states. -/
def offset? : Json → Option Offset
  | .integer n => some (.number n)
  | .bool b => some (.flag b)
  | _ => none

/-- The answer to a file name that is not among the files, which shows the name. -/
def unknownFile (place : Place) (name : Json) : Fault :=
  match name.shown with
  | .ok shown => .malformed (place.field "file") (.unknownFile shown)
  | .error e => .obstacle (.tooManyDigits e)

/-- The file name and the text that a context refers to. -/
def readText (map : CodeMap) (place : Place) (object : Object) :
    Except Fault (Option String × String) :=
  match present? object "file" with
  | none =>
      match Fields.get? "text" object with
      | none => .ok (none, "")
      | some (.text s) => .ok (none, s)
      | some _ => .error (.malformed (place.field "text") .textNotText)
  | some (.array _) => .error (.obstacle (.container .array))
  | some (.object _) => .error (.obstacle (.container .object))
  | some (.text name) =>
      match map.text? name with
      | some s => .ok (some name, s)
      | none => .error (unknownFile place (.text name))
  | some value => .error (unknownFile place value)

/-- The context that an object states. Without a start it begins at zero, without an end it
reaches to the end of the text. -/
def readContext (map : CodeMap) (place : Place) (object : Object) :
    Except Fault SourceContext := do
  let (fileName, text) ← readText map place object
  let start := (Fields.get? "start" object).getD (.integer 0)
  let stop := (Fields.get? "end" object).getD (.integer text.length)
  match offset? start, offset? stop with
  | some start, some stop =>
      match SourceContext.make fileName text start stop with
      | .ok context => return context
      | .error e => throw (.malformed place (.range e))
  | _, _ => throw (.malformed place .offsetNotInteger)

/-- The context in a field of an entry. -/
def readContext? (map : CodeMap) (place : Place) (object : Object) (name : String) :
    Except Fault (Option SourceContext) :=
  match present? object name with
  | none => .ok none
  | some value => do
      let fields ← readObject (place.field name) value
      return some (← readContext map (place.field name) fields)

/-! ## Entries -/

/-- The name of the kind of an entry. -/
def readKindName (place : Place) (object : Object) : Except Fault String :=
  match Fields.get? "kind" object with
  | some (.text name) => .ok name
  | _ => .error (.malformed (place.field "kind") .missingKind)

/-- The kind of an entry. -/
def readKind {κ : Type} (ofName : String → Except UnknownKind κ) (place : Place)
    (object : Object) : Except Fault κ := do
  let name ← readKindName place object
  match ofName name with
  | .ok kind => return kind
  | .error e => throw (.malformed (place.field "kind") (.unknownKind e))

/-- The detail of an entry. -/
def readDetail (place : Place) (object : Object) : Except Fault (Option String) :=
  match present? object "detail" with
  | none => .ok none
  | some (.text s) => .ok (some s)
  | some _ => .error (.malformed (place.field "detail") .detailNotText)

/-- A warning. -/
def readWarning (map : CodeMap) (index : Nat) (value : Json) : Except Fault Warning := do
  let place := Place.entry .warnings index []
  let object ← readObject place value
  let kind ← readKind WarningKind.ofName place object
  let detail ← readDetail place object
  let context ← readContext? map place object "context"
  let referent ← readContext? map place object "referent"
  return { kind, detail, context, referent }

/-- An error. -/
def readError (map : CodeMap) (index : Nat) (value : Json) : Except Fault ParseError := do
  let place := Place.entry .errors index []
  let object ← readObject place value
  let kind ← readKind ErrorKind.ofName place object
  let detail ← readDetail place object
  let context ← readContext? map place object "context"
  return { kind, detail, context }

/-- The texts in an array of texts. -/
def texts? : List Json → Option (List String)
  | [] => some []
  | .text s :: rest => (texts? rest).map (s :: ·)
  | _ :: _ => none

/-- The tags of a passage. Every value that is empty or zero stands for no tags. -/
def readTags (place : Place) (object : Object) : Except Fault (List String) :=
  let value := (Fields.get? "tags" object).getD .null
  if value.isEmptyish then .ok []
  else
    let tags :=
      match value with
      | .array items => texts? items
      | _ => none
    match tags with
    | some tags => .ok tags
    | none => .error (.malformed (place.field "tags") .tagsNotTexts)

/-- The name of a passage. -/
def readPassageName (place : Place) (object : Object) : Except Fault String :=
  match Fields.get? "name" object with
  | some (.text name) => .ok name
  | _ => .error (.malformed (place.field "name") .passageNameNotText)

/-- The context of a passage, which is stated by the passage itself if it has a start. -/
def readPassageContext (map : CodeMap) (place : Place) (object : Object) :
    Except Fault (Option SourceContext) :=
  match Fields.get? "start" object with
  | none => .ok none
  | some _ => (readContext map place object).map some

/-- The content of a passage: what it states, or else the text of its context. -/
def readContent (object : Object) (context : Option SourceContext) : Except Fault String :=
  match present? object "content" with
  | none => .ok ((context.map (·.contents)).getD "")
  | some value =>
      match value.asText with
      | .ok content => .ok content
      | .error e => .error (.obstacle (.tooManyDigits e))

/-- A passage. -/
def readPassage (map : CodeMap) (index : Nat) (value : Json) : Except Fault Passage := do
  let place := Place.entry .passages index []
  let object ← readObject place value
  let name ← readPassageName place object
  let tags ← readTags place object
  let context ← readPassageContext map place object
  let content ← readContent object context
  return { name, tags, content, context }

/-! ## Documents -/

/-- The text of a file. -/
def readFile (name : String) : Json → Except Fault SourceFile
  | .text text => .ok { name, text }
  | _ => .error (.malformed (.file name) .fileNotText)

/-- The files that fields state, in their order. -/
def readFileList : Object → Except Fault (List SourceFile)
  | [] => return []
  | (name, value) :: rest => do
      let file ← readFile name value
      let others ← readFileList rest
      return file :: others

/-- The names of files that were read are those of their fields. -/
theorem names_readFileList {fields : Object} {files : List SourceFile}
    (h : readFileList fields = .ok files) :
    files.map SourceFile.name = fields.map (·.1) := by
  induction fields generalizing files with
  | nil =>
      simp only [readFileList, pure, Except.pure, Except.ok.injEq] at h
      simp [← h]
  | cons field rest ih =>
      obtain ⟨name, value⟩ := field
      cases hf : readFile name value with
      | error e => simp [readFileList, hf, bind, Except.bind] at h
      | ok file =>
          cases hr : readFileList rest with
          | error e => simp [readFileList, hf, hr, bind, Except.bind] at h
          | ok others =>
              simp only [readFileList, hf, hr, bind, Except.bind, pure, Except.pure,
                Except.ok.injEq] at h
              have hname : file.name = name := by
                cases value <;> simp only [readFile, Except.ok.injEq, reduceCtorEq] at hf
                simp [← hf]
              simp [← h, hname, ih hr]

/-- The code map of fields that state files. -/
def readCodeMap (fields : Object) : Except Fault CodeMap :=
  match h : readFileList (Fields.distinct fields) with
  | .error e => .error e
  | .ok files => .ok
      { files
        names_nodup := by
          rw [names_readFileList h]
          exact Fields.nodup_names_distinct fields }

/-- The code map of a document; a document without files has an empty one. -/
def readFiles (document : Object) : Except Fault CodeMap :=
  match Fields.get? "files" document with
  | none => .ok {}
  | some (.object fields) => readCodeMap fields
  | some _ => .error (.malformed .files .filesNotAnObject)

/-- What is read of every document: files, warnings and errors. -/
structure Findings where
  codeMap : CodeMap
  warnings : List Warning
  errors : List ParseError
deriving Repr

/-- The files, warnings and errors of a document. -/
def readFindings (document : Object) : Except Fault Findings := do
  let codeMap ← readFiles document
  let warnings ← readEntries (readWarning codeMap) 0 (← entries document .warnings)
  let errors ← readEntries (readError codeMap) 0 (← entries document .errors)
  return { codeMap, warnings, errors }

/-- The title of a document. -/
def readTitle (document : Object) : Except Fault (Option String) :=
  match present? document "title" with
  | none => .ok none
  | some (.text s) => .ok (some s)
  | some _ => .error (.malformed .title .titleNotText)

/-- The story of a document without errors. -/
def readStory (document : Object) (codeMap : CodeMap) : Except Fault Story := do
  let passages ← readEntries (readPassage codeMap) 0 (← entries document .passages)
  let title ← readTitle document
  return { codeMap, title, passages := Passage.distinct passages }

/-- The result that findings lead to. -/
def readResult (document : Object) (findings : Findings) : Except Fault StoryOutput :=
  if findings.errors.isEmpty then do
    let story ← readStory document findings.codeMap
    return { result := .story story, warnings := findings.warnings }
  else
    return { result := .errors findings.errors findings.codeMap, warnings := findings.warnings }

/-- What a document states. -/
def readDocument : Json → Except Fault StoryOutput
  | .object document => do readResult document (← readFindings document)
  | _ => .error (.malformed .document .notAnObject)

/-- A fault together with the name of the dump. -/
def Fault.inSource (source : Option String) : Fault → Failure
  | malformed place reason => .malformed { source, place, reason }
  | obstacle o => .obstacle o

/-- Read a document. `source` names the dump in errors. -/
def read (source : Option String) (document : Json) : Except Failure StoryOutput :=
  match readDocument document with
  | .ok output => .ok output
  | .error fault => .error (fault.inSource source)

/-- The log records of reading a document: one, as soon as files, warnings and errors are read. -/
def readRecords (source : Option String) : Json → List LogRecord
  | .object document =>
      match readFindings document with
      | .ok findings =>
          let name := source.getD ""
          [{ level := .debug
             source := .dump
             message := "dump " ++ (if name.isEmpty then "<memory>" else name) ++ ": " ++
               toString findings.codeMap.size ++ " file(s), " ++
               toString findings.warnings.length ++ " warning(s), " ++
               toString findings.errors.length ++ " error(s)" }]
      | .error _ => []
  | _ => []

end StoryLint.Dump
