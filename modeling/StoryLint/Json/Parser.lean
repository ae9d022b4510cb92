import StoryLint.Fields
import StoryLint.Json.Basic
import StoryLint.Source.Position

/-!
# Reading JSON texts

`Json.parse` reads one JSON value that fills the text. Beyond the standard it accepts `NaN`,
`Infinity` and `-Infinity`; control characters may not stand in a string. A text that is no JSON
value is answered with the place and the cause of the first fault.

Reading has limits, which a text may go beyond without a fault of its own (`Json.Limit`): an integer
has no more than `Number.mostDigits` digits, and arrays and objects stand inside each other no
deeper than the stack has room for. `room` is the number of arrays and objects that may still be
opened. The report of most faults needs some of it too, so that a fault far inside a text may go
beyond the limit of nesting.

Texts are made of characters. An escape that is half of a surrogate pair, without the other half, is
no character, and what a document with such a lone surrogate states is outside this library. A
reader goes on behind it, without a value, so that a fault or a limit further on is the answer as
in any other text.

Every reader returns the rest of its input with a proof that it is shorter, which bounds the
recursion.
-/

namespace StoryLint.Json

/-- Why a text is not a JSON value. -/
inductive Fault where
  | expectedValue
  | expectedName
  | expectedColon
  | expectedComma
  | extraData
  | unterminatedString
  | controlCharacter
  | unknownEscape
  | unicodeEscape
  | byteOrderMark
deriving DecidableEq, Repr

/-- The cause in words. -/
def Fault.message : Fault → String
  | .expectedValue => "Expecting value"
  | .expectedName => "Expecting property name enclosed in double quotes"
  | .expectedColon => "Expecting ':' delimiter"
  | .expectedComma => "Expecting ',' delimiter"
  | .extraData => "Extra data"
  | .unterminatedString => "Unterminated string starting at"
  | .controlCharacter => "Invalid control character at"
  | .unknownEscape => "Invalid \\escape"
  | .unicodeEscape => "Invalid \\uXXXX escape"
  | .byteOrderMark => "Unexpected UTF-8 BOM (decode using utf-8-sig)"

/-- A fault and its place: the offset from the start of the text, as a position too. -/
structure SyntaxError where
  fault : Fault
  offset : Nat
  position : Position
deriving DecidableEq, Repr

/-- The error text: cause, line, column and offset. -/
def SyntaxError.message (e : SyntaxError) : String :=
  e.fault.message ++ ": line " ++ toString e.position.line ++ " column " ++
    toString e.position.column ++ " (char " ++ toString e.offset ++ ")"

/-- What was to be read when no room was left for it. -/
inductive TooDeep where
  | array
  | object
  | other
deriving DecidableEq, Repr

/-- The error text. -/
def TooDeep.message (e : TooDeep) : String :=
  "maximum recursion depth exceeded" ++
    match e with
    | array => " while decoding a JSON array from a unicode string"
    | object => " while decoding a JSON object from a unicode string"
    | other => ""

/-- What keeps a text from being read although it has no fault so far: an integer is too long, or
the text is nested too deeply. -/
inductive Limit where
  | digits (e : Number.TooManyDigits)
  | nesting (e : TooDeep)
deriving DecidableEq, Repr

/-- The error text. -/
def Limit.message : Limit → String
  | digits e => e.message
  | nesting e => e.message

/-- Why a text is not read: it is no JSON value, it goes beyond a limit, or it is a JSON value with
a lone surrogate, which is outside this library. -/
inductive ReadError where
  | noJson (e : SyntaxError)
  | limit (l : Limit)
  | loneSurrogate
deriving DecidableEq, Repr

/-- Why a reader stops: at a fault, given with the number of characters from its place to the end
of the text, or at a limit. -/
inductive Stop where
  | fault (cause : Fault) (remaining : Nat)
  | limit (l : Limit)

/-- The room that the report of a fault inside a text needs. -/
def reportRoom : Nat := 3

/-- The stop at a fault inside a text, where some room is left. -/
def stopAt (room : Nat) (cause : Fault) (remaining : Nat) : Stop :=
  if room < reportRoom then .limit (.nesting .other) else .fault cause remaining

/-- A proper tail of a text, by length. -/
abbrev Rest (s : List Char) := { r : List Char // r.length < s.length }

/-- Whether a character may stand between the parts of a JSON text. -/
def isSpace (c : Char) : Bool :=
  c = ' ' || c = '\t' || c = '\n' || c = '\r'

/-- Skip the space at the front of a text. -/
def skipSpace (s : List Char) : List Char :=
  s.dropWhile isSpace

/-- Skipping space makes no text longer. -/
theorem length_skipSpace_le (s : List Char) : (skipSpace s).length ≤ s.length :=
  (List.dropWhile_sublist _).length_le

/-- A list from its parts, if all of them are there. -/
def cons? {α : Type} (first : Option α) (rest : Option (List α)) : Option (List α) := do
  return (← first) :: (← rest)

/-- A rest of a tail is a rest of the whole. -/
def Rest.extend {s t : List Char} (r : Rest t) (h : t.length ≤ s.length) : Rest s :=
  ⟨r.1, Nat.lt_of_lt_of_le r.2 h⟩

/-! ## Strings -/

/-- The value of a hexadecimal digit. -/
def hexValue? (c : Char) : Option Nat :=
  if '0' ≤ c ∧ c ≤ '9' then some (c.toNat - '0'.toNat)
  else if 'a' ≤ c ∧ c ≤ 'f' then some (c.toNat - 'a'.toNat + 10)
  else if 'A' ≤ c ∧ c ≤ 'F' then some (c.toNat - 'A'.toNat + 10)
  else none

/-- The number that four hexadecimal digits write. -/
def fourHex? (s : List Char) : Option Nat :=
  match s.take 4 with
  | [a, b, c, d] => do
      return (((← hexValue? a) * 16 + (← hexValue? b)) * 16 + (← hexValue? c)) * 16 +
        (← hexValue? d)
  | _ => none

/-- The character of a code. Half of a surrogate pair is none. -/
def charOf? (code : Nat) : Option Char :=
  if code.isValidChar then some (Char.ofNat code) else none

/-- The character of an escape with one letter. -/
def escaped? : Char → Option Char
  | '"' => some '"'
  | '\\' => some '\\'
  | '/' => some '/'
  | 'b' => some '\x08'
  | 'f' => some '\x0c'
  | 'n' => some '\n'
  | 'r' => some '\r'
  | 't' => some '\t'
  | _ => none

/-- The second half of a surrogate pair, if the text goes on with an escape that is one. The text
must not end with that escape. -/
def lowSurrogate? (room : Nat) (s : List Char) : Except Stop (Option Nat) :=
  match s with
  | '\\' :: 'u' :: digits =>
      if (s.drop 6).isEmpty then .ok none
      else
        match fourHex? digits with
        | some low => .ok (if 0xDC00 ≤ low ∧ low ≤ 0xDFFF then some low else none)
        | none => .error (stopAt room .unicodeEscape (digits.length + 1))
  | _ => .ok none

/-- The character of a Unicode escape, given the text after its `u`, with the number of
characters read. -/
def unicodeEscape (room : Nat) (s : List Char) : Except Stop (Option Char × Nat) :=
  if (s.drop 4).isEmpty then .error (stopAt room .unicodeEscape (s.length + 1))
  else
    match fourHex? s with
    | none => .error (stopAt room .unicodeEscape (s.length + 1))
    | some code =>
        if 0xD800 ≤ code ∧ code ≤ 0xDBFF then do
          match ← lowSurrogate? room (s.drop 4) with
          | some low => return (charOf? (0x10000 + (code - 0xD800) * 0x400 + (low - 0xDC00)), 10)
          | none => return (charOf? code, 4)
        else .ok (charOf? code, 4)

/-- The characters of a string up to its closing quote. `opening` is the text from the opening
quote on, the place of a string that does not end. -/
def stringBody (room : Nat) (opening : List Char) (s : List Char) :
    Except Stop (Option (List Char) × Rest s) :=
  match s with
  | [] => .error (stopAt room .unterminatedString opening.length)
  | ['\\'] => .error (stopAt room .unterminatedString opening.length)
  | '"' :: rest => .ok (some [], ⟨rest, by simp⟩)
  | '\\' :: 'u' :: rest => do
      let (c, size) ← unicodeEscape room rest
      let (body, r) ← stringBody room opening (rest.drop size)
      return (cons? c body, r.extend (by simp; omega))
  | '\\' :: letter :: rest =>
      match escaped? letter with
      | none => .error (stopAt room .unknownEscape (rest.length + 2))
      | some c => do
          let (body, r) ← stringBody room opening rest
          return (cons? (some c) body, r.extend (by simp; omega))
  | c :: rest =>
      if c.toNat < 0x20 then .error (stopAt room .controlCharacter (rest.length + 1))
      else do
        let (body, r) ← stringBody room opening rest
        return (cons? (some c) body, r.extend (by simp))
termination_by s.length
decreasing_by all_goals (simp; try omega)

/-! ## Numbers -/

/-- The natural number that decimal digits write. -/
def naturalOf (digits : List Char) : Nat :=
  digits.foldl (fun n c => n * 10 + (c.toNat - '0'.toNat)) 0

/-- The digits at the front of a text. -/
def digitsOf (s : List Char) : List Char :=
  s.takeWhile Char.isDigit

/-- The digits of a fraction: a point and at least one digit. -/
def fractionOf (s : List Char) : List Char :=
  match s with
  | '.' :: rest => digitsOf rest
  | _ => []

/-- An exponent with its length: a letter `e`, a sign or none, and at least one digit. -/
def exponentOf? (s : List Char) : Option (Int × Nat) :=
  match s with
  | e :: rest =>
      if e = 'e' || e = 'E' then
        let (negative, unsigned) :=
          match rest with
          | '-' :: r => (true, r)
          | '+' :: r => (false, r)
          | r => (false, r)
        let digits := digitsOf unsigned
        if digits.isEmpty then none
        else
          let size := 1 + (rest.length - unsigned.length) + digits.length
          some (if negative then -(naturalOf digits : Int) else naturalOf digits, size)
      else none
  | [] => none

/-- The whole digits of a number: a zero alone, or digits that do not start with zero. -/
def wholeOf (s : List Char) : List Char :=
  match s with
  | '0' :: _ => ['0']
  | _ => digitsOf s

/-- The integer that decimal digits write. -/
def integerOf (negative : Bool) (digits : List Char) : Except Stop Json :=
  if Number.mostDigits < digits.length then .error (.limit (.digits (.read digits.length)))
  else .ok (.integer (if negative then -(naturalOf digits : Int) else naturalOf digits))

/-- A number without its sign, with the number of characters read. -/
def magnitude? (negative : Bool) (s : List Char) : Except Stop (Option (Json × Nat)) :=
  let whole := wholeOf s
  if whole.isEmpty then .ok none
  else
    let fraction := fractionOf (s.drop whole.length)
    let size := whole.length + (if fraction.isEmpty then 0 else fraction.length + 1)
    match exponentOf? (s.drop size) with
    | some (exponent, more) =>
        .ok (some (.real (.ofDecimal negative (naturalOf (whole ++ fraction))
          (exponent - fraction.length)), size + more))
    | none =>
        if fraction.isEmpty then do
          return some (← integerOf negative whole, size)
        else
          .ok (some (.real (.ofDecimal negative (naturalOf (whole ++ fraction))
            (-fraction.length)), size))

/-- The words that stand for a value. -/
def words : List (List Char × Json) :=
  [("null".toList, .null), ("true".toList, .bool true), ("false".toList, .bool false)]

/-- The words that stand for a number. Looking one up needs room. -/
def numberWords : List (List Char × Json) :=
  [("NaN".toList, .real .notANumber), ("Infinity".toList, .real (.infinite false)),
   ("-Infinity".toList, .real (.infinite true))]

/-- The first of some words that a text starts with, and its value. -/
def word? (table : List (List Char × Json)) (s : List Char) : Option (Json × Nat) :=
  (table.find? fun (word, _) => word.isPrefixOf s).map fun (word, value) => (value, word.length)

/-- A word or a number at the front of a text, with the number of characters read. -/
def scalar? (room : Nat) (s : List Char) : Except Stop (Option (Json × Nat)) :=
  match word? words s, word? numberWords s with
  | some found, _ => .ok (some found)
  | none, some found => if room = 0 then .error (.limit (.nesting .other)) else .ok (some found)
  | none, none =>
      match s with
      | '-' :: rest => do
          return (← magnitude? true rest).map fun (value, size) => (value, size + 1)
      | _ => magnitude? false s

/-! ## Values -/

/-- A field from its name and its value, if both are there. -/
def field? (name : Option (List Char)) (value : Option Json) : Option (String × Json) := do
  return (String.ofList (← name), ← value)

mutual

/-- One value at the front of a text, which has no space before it. -/
def value (room : Nat) (s : List Char) : Except Stop (Option Json × Rest s) :=
  match s with
  | '"' :: rest => do
      let (body, r) ← stringBody room s rest
      return (body.map fun chars => .text (String.ofList chars), r.extend (by simp))
  | '[' :: rest =>
      match room with
      | 0 => .error (.limit (.nesting .array))
      | inner + 1 =>
          match h : skipSpace rest with
          | ']' :: after => .ok (some (.array []), ⟨after, by
              have := length_skipSpace_le rest; simp [h] at this; simp; omega⟩)
          | _ => do
              let (list, r) ← items inner (skipSpace rest)
              return (list.map .array, r.extend (by
                have := length_skipSpace_le rest; simp; omega))
  | '\x7b' :: rest =>
      match room with
      | 0 => .error (.limit (.nesting .object))
      | inner + 1 =>
          match h : skipSpace rest with
          | '\x7d' :: after => .ok (some (.object []), ⟨after, by
              have := length_skipSpace_le rest; simp [h] at this; simp; omega⟩)
          | _ => do
              let (fields, r) ← members inner (skipSpace rest)
              return (fields.map fun list => .object (Fields.distinct list), r.extend (by
                have := length_skipSpace_le rest; simp; omega))
  | [] => .error (.fault .expectedValue 0)
  | c :: rest => do
      match ← scalar? room (c :: rest) with
      | some (v, size) => return (some v, ⟨rest.drop (size - 1), by
          rw [List.length_drop, List.length_cons]; omega⟩)
      | none => throw (.fault .expectedValue (rest.length + 1))
termination_by 2 * s.length
decreasing_by
  all_goals
    have := length_skipSpace_le rest
    simp_wf
    omega

/-- The items of an array up to its closing bracket. -/
def items (room : Nat) (s : List Char) : Except Stop (Option (List Json) × Rest s) := do
  let (first, r) ← value room s
  match h : skipSpace r.1 with
  | ']' :: after => return (cons? first (some []), ⟨after, by
      have := length_skipSpace_le r.1; have := r.2; simp [h] at *; omega⟩)
  | ',' :: after =>
      have shorter : (skipSpace after).length < s.length := by
        have := length_skipSpace_le r.1; have := length_skipSpace_le after; have := r.2
        simp [h] at *; omega
      let (others, t) ← items room (skipSpace after)
      return (cons? first others, t.extend (Nat.le_of_lt shorter))
  | rest => throw (stopAt room .expectedComma rest.length)
termination_by 2 * s.length + 1

/-- The fields of an object up to its closing brace. -/
def members (room : Nat) (s : List Char) :
    Except Stop (Option (List (String × Json)) × Rest s) :=
  match s with
  | '"' :: rest => do
      let (name, r) ← stringBody room s rest
      match hcolon : skipSpace r.1 with
      | ':' :: field =>
          have inside : (skipSpace field).length < rest.length := by
            have := length_skipSpace_le r.1; have := length_skipSpace_le field; have := r.2
            simp [hcolon] at *; omega
          let (first, t) ← value room (skipSpace field)
          match h : skipSpace t.1 with
          | '\x7d' :: after => return (cons? (field? name first) (some []), ⟨after, by
              have := length_skipSpace_le t.1; have := t.2; simp [h] at *; omega⟩)
          | ',' :: after =>
              have shorter : (skipSpace after).length < rest.length := by
                have := length_skipSpace_le t.1; have := length_skipSpace_le after
                have := t.2
                simp [h] at *; omega
              let (others, u) ← members room (skipSpace after)
              return (cons? (field? name first) others, u.extend (by simp; omega))
          | other => throw (stopAt room .expectedComma other.length)
      | other => throw (stopAt room .expectedColon other.length)
  | _ => .error (stopAt room .expectedName s.length)
termination_by 2 * s.length + 1

end

/-- The value that fills a text, space around it apart. -/
def document (room : Nat) (s : List Char) : Except Stop (Option Json) := do
  if s.head? = some '\uFEFF' then throw (.fault .byteOrderMark s.length)
  let (v, r) ← value room (skipSpace s)
  let rest := skipSpace r.1
  if rest.isEmpty then return v else throw (.fault .extraData rest.length)

/-- Read a JSON text. `nesting` is the number of arrays and objects that may stand inside each
other. -/
def parse (nesting : Nat) (text : String) : Except ReadError Json :=
  let s := text.toList
  match document nesting s with
  | .ok (some v) => .ok v
  | .ok none => .error .loneSurrogate
  | .error (.limit l) => .error (.limit l)
  | .error (.fault fault remaining) =>
      let offset := s.length - remaining
      .error (.noJson { fault, offset, position := .ofOffset s offset })

end StoryLint.Json
