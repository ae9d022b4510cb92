import StoryLint.Text.Blank
import StoryLint.Text.Quoted

/-!
# When to use colour

Colour is used always, never, or if the output is a terminal. `ansi` is another word for always.
-/

namespace StoryLint

/-- When to use colour. -/
inductive ColorChoice where
  | always
  | ansi
  | auto
  | never
deriving DecidableEq, Repr

/-- A word that is no colour choice. -/
structure UnknownColorChoice where
  word : String
deriving DecidableEq, Repr

/-- The error text. -/
def UnknownColorChoice.message (e : UnknownColorChoice) : String :=
  Text.quoted e.word ++ " is not a valid ColorChoice"

namespace ColorChoice

/-- Every choice, in the order in which the choices are listed. -/
def all : List ColorChoice :=
  [always, ansi, auto, never]

/-- The word for a choice. -/
def name : ColorChoice → String
  | always => "always"
  | ansi => "ansi"
  | auto => "auto"
  | never => "never"

/-- The choice of a word. -/
def ofName (word : String) : Except UnknownColorChoice ColorChoice :=
  match all.find? (·.name = word) with
  | some choice => .ok choice
  | none => .error ⟨word⟩

/-- The choice that a text means: case and blanks around it do not count, and a text that is no
choice means never. The words are ASCII, and no other letter has one of theirs in lower case. -/
def ofText (text : String) : ColorChoice :=
  let word := (Text.trim text.toList).map Char.toLower
  (all.find? fun choice => choice.name.toList = word).getD never

/-- Whether to use colour on an output. `terminal` is absent for an output that cannot tell
whether it is a terminal. -/
def enabledFor (terminal : Option Bool) : ColorChoice → Bool
  | always | ansi => true
  | auto => terminal.getD false
  | never => false

end ColorChoice

end StoryLint
