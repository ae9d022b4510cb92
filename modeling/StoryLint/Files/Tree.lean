import StoryLint.Files.Path

/-!
# Files

A file system is what reading a path gives: bytes, or the reason why there are none. `FileTree`
is a file system as data, the files and directories below one working directory.
-/

namespace StoryLint

/-- Why a file cannot be read. `other` is any further error of the system, with its number. -/
inductive FileFault where
  | notFound
  | notDirectory
  | isDirectory
  | nameTooLong
  | other (code : Nat) (text : String)
deriving DecidableEq, Repr

namespace FileFault

/-- The number of an error. -/
def code : FileFault → Nat
  | notFound => 2
  | notDirectory => 20
  | isDirectory => 21
  | nameTooLong => 36
  | other code _ => code

/-- The words for an error. -/
def text : FileFault → String
  | notFound => "No such file or directory"
  | notDirectory => "Not a directory"
  | isDirectory => "Is a directory"
  | nameTooLong => "File name too long"
  | other _ text => text

end FileFault

/-- A fault in reading a path. -/
structure FileError where
  fault : FileFault
  path : Path
deriving DecidableEq, Repr

/-- The error text: number, words, and the path in quotes. -/
def FileError.message (e : FileError) : String :=
  "[Errno " ++ toString e.fault.code ++ "] " ++ e.fault.text ++ ": " ++ Text.quoted e.path.text

/-- What reading a path gives. -/
abbrev FileSystem := Path → Except FileFault (List UInt8)

/-- The entries below a working directory, by the names on the way to them. An entry without
content is a directory; so is every list of names that leads to an entry. -/
structure FileTree where
  entries : List (List String × Option (List UInt8)) := []

namespace FileTree

/-- The bytes of the longest name that a directory can hold. -/
def longestName : Nat := 255

/-- The bytes of the longest path that can be read. -/
def longestPath : Nat := 4095

/-- Put a file or an empty directory at a path. -/
def put (tree : FileTree) (path : String) (content : Option (List UInt8)) : FileTree :=
  let names := (Path.ofString path).names
  { entries := (tree.entries.filter (·.1 ≠ names)) ++ [(names, content)] }

/-- The content of the file at a place, if there is a file. -/
def file? (tree : FileTree) (names : List String) : Option (List UInt8) :=
  (tree.entries.lookup names).join

/-- Whether a place is a directory. -/
def isDirectory (tree : FileTree) (names : List String) : Bool :=
  names.isEmpty || tree.entries.any fun entry =>
    names.isPrefixOf entry.1 && (entry.1 ≠ names || entry.2.isNone)

/-- Follow names from a directory. The place is absent outside the working directory, where
nothing is found. -/
def follow (tree : FileTree) (place : Option (List String)) :
    List String → Except FileFault (List UInt8)
  | [] => .error .isDirectory
  | name :: rest =>
      if name = ".." then
        follow tree (place.bind fun names => if names.isEmpty then none else some names.dropLast)
          rest
      else if longestName < name.utf8ByteSize then .error .nameTooLong
      else
        match place with
        | none => .error .notFound
        | some names =>
            let next := names ++ [name]
            if tree.isDirectory next then follow tree (some next) rest
            else
              match tree.file? next with
              | none => .error .notFound
              | some content => if rest.isEmpty then .ok content else .error .notDirectory

/-- The tree as a file system. An absolute path leads outside. -/
def fileSystem (tree : FileTree) : FileSystem := fun path =>
  if longestPath < path.text.utf8ByteSize then .error .nameTooLong
  else tree.follow (if path.root.isEmpty then some [] else none) path.names

end FileTree

end StoryLint
