import StoryLint.Text.Quoted

/-!
# Paths

A path is a list of names, below a root or not. Reading a path drops empty names and names that
are a single dot, so that two spellings of one path have one text; a name of two dots stays. Two
slashes at the front are a root of their own, more are one.
-/

namespace StoryLint

/-- A path: its root, empty for a relative path, and its names. -/
structure Path where
  root : String
  names : List String
deriving DecidableEq, Repr

namespace Path

/-- The parts of a text between slashes. -/
def pieces : List Char → List (List Char)
  | [] => [[]]
  | c :: rest =>
      if c = '/' then [] :: pieces rest
      else
        match pieces rest with
        | piece :: others => (c :: piece) :: others
        | [] => [[c]]

/-- The root of a text: how many slashes it starts with decides. -/
def rootOf (s : List Char) : String :=
  match (s.takeWhile (· = '/')).length with
  | 0 => ""
  | 2 => "//"
  | _ => "/"

/-- The path that a text writes. -/
def ofString (text : String) : Path :=
  let s := text.toList
  { root := rootOf s
    names := ((pieces s).filter fun p => p ≠ [] ∧ p ≠ ['.']).map String.ofList }

/-- The text of a path. The empty path is written as a dot. -/
def text (path : Path) : String :=
  let body := path.root ++ "/".intercalate path.names
  if body.isEmpty then "." else body

end Path

end StoryLint
