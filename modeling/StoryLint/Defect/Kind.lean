import StoryLint.Text.Quoted

/-!
# Kinds of warnings and errors

Every kind has a stable name, by which the command line refers to it, and a message template. A
template is a fixed text, or a text with one place for a detail.
-/

namespace StoryLint

/-- A message, with a place for a detail or without. -/
inductive Template where
  | fixed (text : String)
  | withDetail (before : String) (after : String)
deriving DecidableEq, Repr

namespace Template

/-- Whether the message has a place for a detail. -/
def takesDetail : Template → Bool
  | .fixed _ => false
  | .withDetail _ _ => true

/-- The template as it is written down, with a numbered brace pair at the place of the detail. -/
def source : Template → String
  | .fixed text => text
  | .withDetail before after => before ++ "\x7b0\x7d" ++ after

/-- The message for a detail; an absent detail counts as empty. -/
def format (detail : Option String) : Template → String
  | .fixed text => text
  | .withDetail before after => before ++ detail.getD "" ++ after

end Template

/-- What a warning says about a story. -/
inductive WarningKind where
  | escapedOpenSquare
  | escapedCloseSquare
  | escapedOpenCurly
  | escapedCloseCurly
  | jsonError
  | duplicateStoryData
  | duplicateStoryTitle
  | duplicatePassageName
  | missingStoryData
  | missingStoryTitle
  | unclosedLink
  | whitespaceInLink
  | deadLink
  | missingStartPassage
  | deadStartPassage
deriving DecidableEq, Repr

namespace WarningKind

/-- Every kind, in the order in which the kinds are listed. -/
def all : List WarningKind :=
  [escapedOpenSquare, escapedCloseSquare, escapedOpenCurly, escapedCloseCurly, jsonError,
   duplicateStoryData, duplicateStoryTitle, duplicatePassageName, missingStoryData,
   missingStoryTitle, unclosedLink, whitespaceInLink, deadLink, missingStartPassage,
   deadStartPassage]

/-- The stable name of a kind. -/
def name : WarningKind → String
  | escapedOpenSquare => "escaped-open-square"
  | escapedCloseSquare => "escaped-close-square"
  | escapedOpenCurly => "escaped-open-curly"
  | escapedCloseCurly => "escaped-close-curly"
  | jsonError => "json-error"
  | duplicateStoryData => "duplicate-story-data"
  | duplicateStoryTitle => "duplicate-story-title"
  | duplicatePassageName => "duplicate-passage-name"
  | missingStoryData => "missing-story-data"
  | missingStoryTitle => "missing-story-title"
  | unclosedLink => "unclosed-link"
  | whitespaceInLink => "whitespace-in-link"
  | deadLink => "dead-link"
  | missingStartPassage => "missing-start-passage"
  | deadStartPassage => "dead-start-passage"

/-- The message template of a kind. -/
def template : WarningKind → Template
  | escapedOpenSquare => .fixed "Escaped [ character in passage header"
  | escapedCloseSquare => .fixed "Escaped ] character in passage header"
  | escapedOpenCurly => .fixed "Escaped \x7b character in passage header"
  | escapedCloseCurly => .fixed "Escaped \x7d character in passage header"
  | jsonError => .withDetail "Error encountered while parsing JSON: " ""
  | duplicateStoryData => .fixed "Multiple StoryData passages found"
  | duplicateStoryTitle => .fixed "Multiple StoryTitle passages found"
  | duplicatePassageName => .withDetail "Multiple passages named " " found"
  | missingStoryData => .fixed "No StoryData passage found"
  | missingStoryTitle => .fixed "No StoryTitle passage found"
  | unclosedLink => .fixed "Unclosed link"
  | whitespaceInLink => .fixed "Link target contains leading or trailing whitespace"
  | deadLink => .withDetail "Dead link to nonexistent passage: " ""
  | missingStartPassage =>
      .fixed "No passage named Start found and no alternate start passage set in StoryData"
  | deadStartPassage =>
      .withDetail "Start passage set to " ", but no such passage found"

end WarningKind

/-- What an error says about a story. -/
inductive ErrorKind where
  | emptyName
  | leadingWhitespace
  | metadataBeforeTags
  | unclosedTag
  | unclosedMetadata
  | unescapedOpenSquare
  | unescapedCloseSquare
  | unescapedOpenCurly
  | unescapedCloseCurly
  | missingSigil
  | badInputPath
deriving DecidableEq, Repr

namespace ErrorKind

/-- Every kind, in the order in which the kinds are listed. -/
def all : List ErrorKind :=
  [emptyName, leadingWhitespace, metadataBeforeTags, unclosedTag, unclosedMetadata,
   unescapedOpenSquare, unescapedCloseSquare, unescapedOpenCurly, unescapedCloseCurly,
   missingSigil, badInputPath]

/-- The stable name of a kind. -/
def name : ErrorKind → String
  | emptyName => "empty-name"
  | leadingWhitespace => "leading-whitespace"
  | metadataBeforeTags => "metadata-before-tags"
  | unclosedTag => "unclosed-tag"
  | unclosedMetadata => "unclosed-metadata"
  | unescapedOpenSquare => "unescaped-open-square"
  | unescapedCloseSquare => "unescaped-close-square"
  | unescapedOpenCurly => "unescaped-open-curly"
  | unescapedCloseCurly => "unescaped-close-curly"
  | missingSigil => "missing-sigil"
  | badInputPath => "bad-input-path"

/-- The message template of a kind. -/
def template : ErrorKind → Template
  | emptyName => .fixed "Passage header has an empty name"
  | leadingWhitespace => .fixed "Passage header has leading whitespace"
  | metadataBeforeTags => .fixed "Passage metadata appears before tags"
  | unclosedTag => .fixed "Unclosed tag block in passage header"
  | unclosedMetadata => .fixed "Unclosed metadata block in passage header"
  | unescapedOpenSquare => .fixed "Unescaped [ character in passage name"
  | unescapedCloseSquare => .fixed "Unescaped ] character in passage name"
  | unescapedOpenCurly => .fixed "Unescaped \x7b character in passage name"
  | unescapedCloseCurly => .fixed "Unescaped \x7d character in passage name"
  | missingSigil => .fixed "Passage header is missing the :: sigil"
  | badInputPath => .withDetail "Bad input path: " ""

end ErrorKind

/-- A name that no warning kind, or no error kind, has. -/
inductive UnknownKind where
  | warning (name : String)
  | error (name : String)
deriving DecidableEq, Repr

/-- The error text: the family of kinds and the name. -/
def UnknownKind.message : UnknownKind → String
  | .warning name => "unknown WarningKind name: " ++ Text.quoted name
  | .error name => "unknown ErrorKind name: " ++ Text.quoted name

/-- The warning kind of a name; case counts. -/
def WarningKind.ofName (name : String) : Except UnknownKind WarningKind :=
  match all.find? (·.name = name) with
  | some kind => .ok kind
  | none => .error (.warning name)

/-- The error kind of a name; case counts. -/
def ErrorKind.ofName (name : String) : Except UnknownKind ErrorKind :=
  match all.find? (·.name = name) with
  | some kind => .ok kind
  | none => .error (.error name)

end StoryLint
