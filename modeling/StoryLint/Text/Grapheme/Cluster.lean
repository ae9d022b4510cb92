import StoryLint.Text.Grapheme.Property

/-!
# Grapheme clusters

A grapheme cluster is what a reader takes for one character: a letter with its marks, a Hangul
syllable, a flag, a family of joined emoji. `clusters` cuts a text into its extended grapheme
clusters. It reads the text once; `State` is what it has to remember of the cluster at hand.
-/

namespace StoryLint.Text.Grapheme

/-- What the end of the cluster so far is within a sequence of joined emoji. -/
inductive Emoji where
  | none
  | pictograph
  | joined
deriving DecidableEq, Repr

/-- What the end of the cluster so far is within a conjunct of consonants. -/
inductive Conjoining where
  | none
  | consonant
  | linked
deriving DecidableEq, Repr

/-- What is known of the cluster so far: the class of its last character, whether it ends in an
unpaired regional indicator, and how it stands to emoji and to conjuncts. -/
structure State where
  last : Break
  unpaired : Bool
  emoji : Emoji
  conjoining : Conjoining
deriving DecidableEq, Repr

namespace State

/-- The emoji sequence after one more character. -/
def nextEmoji (emoji : Emoji) (c : Char) : Emoji :=
  if isPictographic c then .pictograph
  else
    match emoji, Break.of c with
    | .pictograph, .extend => .pictograph
    | .pictograph, .joiner => .joined
    | _, _ => .none

/-- The conjunct after one more character. -/
def nextConjoining (conjoining : Conjoining) (c : Char) : Conjoining :=
  match conjunctOf c, conjoining with
  | .consonant, _ => .consonant
  | .linker, .consonant => .linked
  | .linker, .linked => .linked
  | .extend, state => state
  | _, _ => .none

/-- The state after one more character. -/
def next (state : State) (c : Char) : State :=
  { last := .of c
    unpaired := Break.of c = .regional && !state.unpaired
    emoji := nextEmoji state.emoji c
    conjoining := nextConjoining state.conjoining c }

/-- The state of a cluster that starts with a character. -/
def start (c : Char) : State :=
  next ⟨.other, false, .none, .none⟩ c

/-- Whether a class stands alone, with a boundary on both sides. -/
def isControl : Break → Bool
  | .carriageReturn | .lineFeed | .control => true
  | _ => false

/-- Whether two Hangul classes belong to one syllable. -/
def sameSyllable : Break → Break → Bool
  | .leading, .leading | .leading, .vowel | .leading, .syllable | .leading, .closedSyllable => true
  | .syllable, .vowel | .syllable, .trailing | .vowel, .vowel | .vowel, .trailing => true
  | .closedSyllable, .trailing | .trailing, .trailing => true
  | _, _ => false

/-- Whether a character goes on with the cluster so far. -/
def joins (state : State) (c : Char) : Bool :=
  let b := Break.of c
  if state.last = .carriageReturn && b = .lineFeed then true
  else if isControl state.last || isControl b then false
  else
    sameSyllable state.last b ||
    b = .extend || b = .joiner || b = .spacing ||
    state.last = .prepend ||
    (state.conjoining = .linked && conjunctOf c = .consonant) ||
    (state.emoji = .joined && isPictographic c) ||
    (state.unpaired && b = .regional)

end State

/-- The clusters of a text, given the state and the characters, last one first, of the cluster
at its front. -/
def clustersFrom (state : State) (current : List Char) : List Char → List (List Char)
  | [] => [current.reverse]
  | c :: rest =>
      if state.joins c then clustersFrom (state.next c) (c :: current) rest
      else current.reverse :: clustersFrom (.start c) [c] rest

/-- The extended grapheme clusters of a text. -/
def clusters : List Char → List (List Char)
  | [] => []
  | c :: rest => clustersFrom (.start c) [c] rest

end StoryLint.Text.Grapheme
