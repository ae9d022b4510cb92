import StoryLint.Text.Quoted

/-!
# Colours and attributes of terminal text

A style is a colour, or none, with a list of attributes. Painted text carries an escape sequence
for each of them, the last attribute outermost, and ends with the sequence that resets the
terminal. A `Span` is a piece of text with the style that it has where colour is on.
-/

namespace StoryLint

/-- A foreground colour. -/
inductive Color where
  | black
  | red
  | green
  | yellow
  | blue
  | magenta
  | cyan
  | lightGrey
  | darkGrey
  | lightRed
  | lightGreen
  | lightYellow
  | lightBlue
  | lightMagenta
  | lightCyan
  | white
deriving DecidableEq, Repr

/-- The number of a colour in an escape sequence. -/
def Color.code : Color → Nat
  | black => 30
  | red => 31
  | green => 32
  | yellow => 33
  | blue => 34
  | magenta => 35
  | cyan => 36
  | lightGrey => 37
  | darkGrey => 90
  | lightRed => 91
  | lightGreen => 92
  | lightYellow => 93
  | lightBlue => 94
  | lightMagenta => 95
  | lightCyan => 96
  | white => 97

/-- A text attribute. -/
inductive Attribute where
  | bold
  | dark
  | italic
  | underline
  | blink
  | reverse
  | concealed
  | strike
deriving DecidableEq, Repr

/-- The number of an attribute in an escape sequence. -/
def Attribute.code : Attribute → Nat
  | bold => 1
  | dark => 2
  | italic => 3
  | underline => 4
  | blink => 5
  | reverse => 7
  | concealed => 8
  | strike => 9

/-- A name that no colour, or no attribute, has. -/
structure UnknownStyle where
  name : String
deriving DecidableEq, Repr

/-- The error text is the name itself. -/
def UnknownStyle.message (e : UnknownStyle) : String :=
  Text.quoted e.name

/-- The names of the colours; one colour has two. -/
def Color.names : List (String × Color) :=
  [("black", black), ("grey", black), ("red", red), ("green", green), ("yellow", yellow),
   ("blue", blue), ("magenta", magenta), ("cyan", cyan), ("light_grey", lightGrey),
   ("dark_grey", darkGrey), ("light_red", lightRed), ("light_green", lightGreen),
   ("light_yellow", lightYellow), ("light_blue", lightBlue), ("light_magenta", lightMagenta),
   ("light_cyan", lightCyan), ("white", white)]

/-- The names of the attributes. -/
def Attribute.names : List (String × Attribute) :=
  [("bold", bold), ("dark", dark), ("italic", italic), ("underline", underline),
   ("blink", blink), ("reverse", reverse), ("concealed", concealed), ("strike", strike)]

/-- The colour of a name. -/
def Color.ofName (name : String) : Except UnknownStyle Color :=
  match names.lookup name with
  | some color => .ok color
  | none => .error ⟨name⟩

/-- The attribute of a name. -/
def Attribute.ofName (name : String) : Except UnknownStyle Attribute :=
  match names.lookup name with
  | some found => .ok found
  | none => .error ⟨name⟩

/-- The escape sequence of a number. -/
def escapeSequence (code : Nat) : String :=
  "\x1b[" ++ toString code ++ "m"

/-- The escape sequence that resets the terminal. -/
def resetSequence : String :=
  escapeSequence 0

/-- A colour with attributes. -/
structure Style where
  color : Option Color := none
  attributes : List Attribute := []
deriving DecidableEq, Repr

namespace Style

/-- The style of names. The colour is looked up before the attributes, and the first unknown name
is the error. -/
def ofNames (color : Option String) (attributes : List String) : Except UnknownStyle Style := do
  let color ← color.mapM Color.ofName
  let attributes ← attributes.mapM Attribute.ofName
  return { color, attributes }

/-- The escape sequences in front of painted text. -/
def opening (style : Style) : String :=
  String.join (style.attributes.reverse.map fun a => escapeSequence a.code) ++
    (style.color.map fun c => escapeSequence c.code).getD ""

/-- Text in a style, with a reset after it. -/
def paint (style : Style) (text : String) : String :=
  style.opening ++ text ++ resetSequence

/-- Bold text without a colour. -/
def bold : Style :=
  { attributes := [.bold] }

/-- Bold text in a colour. -/
def boldIn (color : Color) : Style :=
  { color := some color, attributes := [.bold] }

end Style

/-- A piece of text, with the style that it has where colour is on. -/
structure Span where
  text : String
  style : Option Style := none
deriving DecidableEq, Repr

namespace Span

/-- Text without a style. -/
def plain (text : String) : Span :=
  { text }

/-- Text in a style. -/
def styled (style : Style) (text : String) : Span :=
  { text, style := some style }

/-- The text of a span, with escape sequences where colour is on. -/
def render (colored : Bool) (span : Span) : String :=
  match colored, span.style with
  | true, some style => style.paint span.text
  | _, _ => span.text

/-- The text of a list of spans. -/
def renderAll (colored : Bool) (spans : List Span) : String :=
  String.join (spans.map (render colored))

end Span

end StoryLint
