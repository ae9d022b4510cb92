import StoryLint.Dump.Reader
import StoryLint.Host
import StoryLint.Text.Utf8

/-!
# Loading dumps from files

A dump file holds a JSON text in UTF-8, with line ends of any kind. `Dump.load` reads the file of
a path and the document in it. Errors name the dump by the text of its path, apart from those that
say nothing about the form of the dump: a text that goes beyond a limit of reading, and a document
with an obstacle.
-/

namespace StoryLint.Dump

/-- Why a dump is not loaded: the file cannot be read, its path holds a null character, its bytes
are no UTF-8, its text goes beyond a limit of reading or has a lone surrogate, or the document in
it fails to be read. -/
inductive LoadError where
  | unreadable (e : FileError)
  | nullInPath
  | notUtf8 (e : Text.Utf8.Fault)
  | limit (l : Json.Limit)
  | loneSurrogate
  | failure (e : Failure)
deriving DecidableEq, Repr

/-- The error text. -/
def LoadError.message : LoadError → String
  | unreadable e => e.message
  | nullInPath => "embedded null byte"
  | notUtf8 e => e.message
  | limit l => l.message
  | loneSurrogate => "lone surrogate"
  | failure e => e.message

/-- The text in the file of a path. -/
def loadText (host : Host) (path : Path) : Except LoadError String :=
  if path.text.toList.contains '\x00' then .error .nullInPath
  else
    match host.files path with
    | .error fault => .error (.unreadable ⟨fault, path⟩)
    | .ok bytes =>
        match Text.Utf8.decode bytes with
        | .error fault => .error (.notUtf8 fault)
        | .ok chars => .ok (String.ofList (Text.unifyNewlines chars))

/-- The document in the file of a path. -/
def loadDocument (host : Host) (path : Path) : Except LoadError Json := do
  let text ← loadText host path
  match Json.parse host.nesting text with
  | .ok document => return document
  | .error (.limit l) => throw (.limit l)
  | .error .loneSurrogate => throw .loneSurrogate
  | .error (.noJson e) =>
      throw (.failure (.malformed
        { source := some path.text, place := .document, reason := .invalidJson e }))

/-- Load the dump of a path, as it was given. -/
def load (host : Host) (name : String) : Except LoadError StoryOutput := do
  let path := Path.ofString name
  let document ← loadDocument host path
  match read (some path.text) document with
  | .ok output => return output
  | .error e => throw (.failure e)

/-- The log records of loading a dump. -/
def loadRecords (host : Host) (name : String) : List LogRecord :=
  let path := Path.ofString name
  match loadDocument host path with
  | .ok document => readRecords (some path.text) document
  | .error _ => []

end StoryLint.Dump
