import StoryLint.Text.Blank
import StoryLint.Text.Search

/-!
# Links

A link stands between double square brackets and leads to a target: `[[text|target]]`,
`[[target<-text]]`, `[[text->target]]`, or `[[target]]`, in this order of preference. The repair
of a link takes the blanks off its target, in place of the first occurrence of the target's text.
-/

namespace StoryLint.Link

/-- The target within the text between the brackets. -/
def targetOf (contents : List Char) : List Char :=
  match Text.splitFirst? ['|'] contents with
  | some (_, target) => target
  | none =>
      match Text.splitFirst? ['<', '-'] contents with
      | some (target, _) => target
      | none =>
          match Text.splitFirst? ['-', '>'] contents with
          | some (_, target) => target
          | none => contents

/-- The text between the brackets: all but two characters at either end. -/
def inside (link : List Char) : List Char :=
  (link.drop 2).take (link.length - 4)

/-- The link with the blanks taken off its target. -/
def repairOf (link : List Char) : List Char :=
  let target := targetOf (inside link)
  Text.replaceFirst target (Text.trim target) link

/-- The target of the text between the brackets of a link. -/
def target (contents : String) : String :=
  String.ofList (targetOf contents.toList)

/-- The link with the blanks taken off its target. -/
def repair (link : String) : String :=
  String.ofList (repairOf link.toList)

/-- The advice to repair a link. A text too short for two pairs of brackets gets none. -/
def repairNote? (link : String) : Option String :=
  if link.length < 4 then none
  else some ("Try replacing " ++ link ++ " with " ++ repair link)

end StoryLint.Link
