import StoryLint.Number.Integer
import StoryLint.Number.Shortest
import StoryLint.Text.Quoted

/-!
# JSON values

`Json` holds what a JSON text can say, with integers of any size apart from floating-point
numbers. The fields of an object stay in the order in which they were first named. `Json.shown`
writes a value for a message, and `Json.asText` is the text that stands for a value where a text
is wanted. Neither is there for a value with an integer that has too many digits to be written.
-/

namespace StoryLint

/-- A JSON value. A number without fraction and exponent is an integer. -/
inductive Json where
  | null
  | bool (value : Bool)
  | integer (value : Int)
  | real (value : Number.Binary64)
  | text (value : String)
  | array (items : List Json)
  | object (fields : List (String × Json))
deriving Repr

/-- A kind of value that holds others. -/
inductive Container where
  | array
  | object
deriving DecidableEq, Repr

namespace Json

open Number (TooManyDigits integerText plainFormat)

/-- A truth value as a message shows it. -/
def boolText (b : Bool) : String :=
  if b then "True" else "False"

mutual

/-- A value as a message shows it: texts in quotes, brackets around arrays, braces around
objects. -/
def shown : Json → Except TooManyDigits String
  | .null => return "None"
  | .bool b => return boolText b
  | .integer n => integerText n
  | .real x => return plainFormat.text x
  | .text s => return Text.quoted s
  | .array items => do return "[" ++ ", ".intercalate (← shownItems items) ++ "]"
  | .object fields => do return "\x7b" ++ ", ".intercalate (← shownFields fields) ++ "\x7d"

/-- The items of an array as a message shows them. -/
def shownItems : List Json → Except TooManyDigits (List String)
  | [] => return []
  | item :: rest => do
      let first ← shown item
      let others ← shownItems rest
      return first :: others

/-- The fields of an object as a message shows them. -/
def shownFields : List (String × Json) → Except TooManyDigits (List String)
  | [] => return []
  | (name, value) :: rest => do
      let first ← shown value
      let others ← shownFields rest
      return (Text.quoted name ++ ": " ++ first) :: others

end

/-- The text of a value: a text stands for itself, any other value is written as in a message. -/
def asText : Json → Except TooManyDigits String
  | .text s => return s
  | value => value.shown

/-- Whether a value counts as absent where a list is wanted: null, false, zero, and everything
that is empty. -/
def isEmptyish : Json → Bool
  | .null => true
  | .bool b => !b
  | .integer n => n = 0
  | .real x => x.isZero
  | .text s => s.isEmpty
  | .array items => items.isEmpty
  | .object fields => fields.isEmpty

end Json

end StoryLint
