/-!
# UTF-8

`Utf8.decode` reads a text from bytes. Bytes that are no UTF-8 are answered with the first fault:
the span of the bytes that start a character without completing it, and what is wrong with them.
`unifyNewlines` reads every kind of line end as a newline.
-/

namespace StoryLint.Text

namespace Utf8

/-- What is wrong with bytes that are no character. -/
inductive Cause where
  | invalidStart
  | invalidContinuation
  | unexpectedEnd
deriving DecidableEq, Repr

/-- The cause in words. -/
def Cause.message : Cause → String
  | .invalidStart => "invalid start byte"
  | .invalidContinuation => "invalid continuation byte"
  | .unexpectedEnd => "unexpected end of data"

/-- Bytes that are no character: where they start, how many they are, and the first of them. -/
structure Fault where
  cause : Cause
  position : Nat
  length : Nat
  byte : UInt8
deriving DecidableEq, Repr

/-- A byte as two hexadecimal digits. -/
def hexByte (b : UInt8) : String :=
  let digits := Nat.toDigits 16 b.toNat
  String.ofList (List.replicate (2 - digits.length) '0' ++ digits)

/-- The error text: the byte, or the span of several bytes, and the cause. -/
def Fault.message (f : Fault) : String :=
  let span :=
    if f.length = 1 then "byte 0x" ++ hexByte f.byte ++ " in position " ++ toString f.position
    else "bytes in position " ++ toString f.position ++ "-" ++
      toString (f.position + f.length - 1)
  "'utf-8' codec can't decode " ++ span ++ ": " ++ f.cause.message

/-- What the first byte of a character announces: the number of bytes to follow, the bounds of
the next one, and the bits that the first byte contributes. -/
structure Lead where
  owed : Nat
  low : Nat
  high : Nat
  bits : Nat
deriving DecidableEq, Repr

/-- The announcement of a first byte. The bounds of the second byte rule out overlong forms,
surrogates, and numbers beyond the last code point. -/
def lead? (b : Nat) : Option Lead :=
  if b < 0x80 then some ⟨0, 0x80, 0xBF, b⟩
  else if b < 0xC2 then none
  else if b < 0xE0 then some ⟨1, 0x80, 0xBF, b - 0xC0⟩
  else if b < 0xF0 then
    some ⟨2, if b = 0xE0 then 0xA0 else 0x80, if b = 0xED then 0x9F else 0xBF, b - 0xE0⟩
  else if b < 0xF5 then
    some ⟨3, if b = 0xF0 then 0x90 else 0x80, if b = 0xF4 then 0x8F else 0xBF, b - 0xF0⟩
  else none

/-- The code point of a character, from the bytes after the first. `read` is the number of bytes
so far, the length of the span if the character breaks off. -/
def follow (owed low high value read : Nat) (bytes : List UInt8) : Except (Cause × Nat) Nat :=
  match owed with
  | 0 => .ok value
  | owed + 1 =>
      match bytes with
      | [] => .error (.unexpectedEnd, read)
      | b :: rest =>
          if low ≤ b.toNat ∧ b.toNat ≤ high then
            follow owed 0x80 0xBF (value * 64 + (b.toNat - 0x80)) (read + 1) rest
          else .error (.invalidContinuation, read)

/-- The characters of bytes that start at a position. -/
def decodeFrom (position : Nat) : List UInt8 → Except Fault (List Char)
  | [] => .ok []
  | b :: rest =>
      match lead? b.toNat with
      | none => .error ⟨.invalidStart, position, 1, b⟩
      | some lead =>
          match follow lead.owed lead.low lead.high lead.bits 1 rest with
          | .error (cause, length) => .error ⟨cause, position, length, b⟩
          | .ok code => do
              let chars ← decodeFrom (position + 1 + lead.owed) (rest.drop lead.owed)
              return Char.ofNat code :: chars
termination_by bytes => bytes.length

/-- The characters of bytes. -/
def decode (bytes : List UInt8) : Except Fault (List Char) :=
  decodeFrom 0 bytes

end Utf8

/-- A text with every line end, a carriage return with or without a newline, as a newline. -/
def unifyNewlines : List Char → List Char
  | '\r' :: '\n' :: rest => '\n' :: unifyNewlines rest
  | c :: rest => (if c = '\r' then '\n' else c) :: unifyNewlines rest
  | [] => []

end StoryLint.Text
