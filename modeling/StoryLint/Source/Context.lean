import StoryLint.Number.Integer
import StoryLint.Source.Position

/-!
# Source contexts

A source context is a range of a text, from `start` up to but not including `stop`. The text
belongs to a named file, or it is story text without a file. The range lies inside the text:
that is part of the type, and `SourceContext.make` is the check behind it.
-/

namespace StoryLint

/-- An offset as it was given: a number, or a truth value that counts as zero or one. -/
inductive Offset where
  | number (n : Int)
  | flag (b : Bool)
deriving DecidableEq, Repr

namespace Offset

/-- The number that an offset counts as. -/
def value : Offset → Int
  | .number n => n
  | .flag b => if b then 1 else 0

/-- The offset in the words of an error message. -/
def text : Offset → Except Number.TooManyDigits String
  | .number n => Number.integerText n
  | .flag b => .ok (if b then "True" else "False")

end Offset

/-- A range of a text. `fileName` is absent for text that comes from no named file. -/
structure SourceContext where
  fileName : Option String
  text : String
  start : Offset
  stop : Offset
  start_nonneg : 0 ≤ start.value
  start_le_stop : start.value ≤ stop.value
  stop_le_length : stop.value ≤ text.length
deriving DecidableEq, Repr

/-- A range that does not lie in a text of the given length. -/
structure RangeError where
  start : Offset
  stop : Offset
  length : Nat
deriving DecidableEq, Repr

/-- The range in words: its ends and the length of the text. -/
def RangeError.range (e : RangeError) : Except Number.TooManyDigits String := do
  return "context range " ++ (← e.start.text) ++ ".." ++ (← e.stop.text) ++
    " outside text of length " ++ toString e.length

/-- The error text: the range, or that an end of it has too many digits to be written. -/
def RangeError.message (e : RangeError) : String :=
  match e.range with
  | .ok text => text
  | .error tooLong => tooLong.message

namespace SourceContext

/-- The range from `start` to `stop` of a text, if it lies in the text. -/
def make (fileName : Option String) (text : String) (start stop : Offset) :
    Except RangeError SourceContext :=
  if h : 0 ≤ start.value ∧ start.value ≤ stop.value ∧ stop.value ≤ text.length then
    .ok ⟨fileName, text, start, stop, h.1, h.2.1, h.2.2⟩
  else .error ⟨start, stop, text.length⟩

/-- The end of a text as an offset. -/
def endOf (text : String) : Offset :=
  .number text.length

/-- The context that covers a whole text. -/
def whole (fileName : Option String) (text : String) : SourceContext :=
  ⟨fileName, text, .number 0, endOf text, by simp [Offset.value], by simp [Offset.value, endOf],
    by simp [Offset.value, endOf]⟩

/-- Another range of the same text. -/
def slice (context : SourceContext) (start stop : Offset) : Except RangeError SourceContext :=
  make context.fileName context.text start stop

/-- The offset of the first character. -/
def first (context : SourceContext) : Nat :=
  context.start.value.toNat

/-- The offset after the last character. -/
def last (context : SourceContext) : Nat :=
  context.stop.value.toNat

/-- The first and the last offset as numbers. -/
def span (context : SourceContext) : Int × Int :=
  (context.start.value, context.stop.value)

/-- The text of the range. -/
def contents (context : SourceContext) : String :=
  String.ofList ((context.text.toList.drop context.first).take (context.last - context.first))

/-- Where the range starts. -/
def startPosition (context : SourceContext) : Position :=
  .ofOffset context.text.toList context.first

/-- Where the range ends. -/
def stopPosition (context : SourceContext) : Position :=
  .ofOffset context.text.toList context.last

/-- File and start of the range; text without a file is called the story. -/
def describe (context : SourceContext) : String :=
  context.fileName.getD "<story>" ++ ":" ++ context.startPosition.text

/-- A message with its place in front: file and position, the position alone for text without a
file, or nothing without a context. -/
def locate (context : Option SourceContext) (message : String) : String :=
  match context with
  | none => message
  | some c =>
      match c.fileName with
      | none => c.startPosition.text ++ ": " ++ message
      | some name => name ++ ":" ++ c.startPosition.text ++ ": " ++ message

/-- The first offset is the start as it is resolved. -/
theorem first_eq (context : SourceContext) : (context.first : Int) = context.start.value :=
  Int.toNat_of_nonneg context.start_nonneg

/-- The last offset is the stop as it is resolved. -/
theorem last_eq (context : SourceContext) : (context.last : Int) = context.stop.value :=
  Int.toNat_of_nonneg (Int.le_trans context.start_nonneg context.start_le_stop)

/-- A context does not stop in front of its start. -/
theorem first_le_last (context : SourceContext) : context.first ≤ context.last :=
  Int.toNat_le_toNat context.start_le_stop

/-- A context stays within its text. -/
theorem last_le_length (context : SourceContext) : context.last ≤ context.text.length := by
  have := context.last_eq
  have := context.stop_le_length
  omega

end SourceContext

end StoryLint
