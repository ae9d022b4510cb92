import StoryLint.Defect.Kind
import StoryLint.Terminal.ColorChoice

/-!
# Configuration of a run

A policy says by name which warnings to ignore and which to treat as errors; ignoring wins, and
the name `all` stands for every warning. A configuration adds the inputs of a run and the form of
its report.
-/

namespace StoryLint

/-- The warnings to ignore and the warnings to treat as errors, by name. -/
structure Policy where
  allowed : List String := []
  denied : List String := []
deriving DecidableEq, Repr

namespace Policy

/-- The name that stands for every warning. -/
def everything : String := "all"

/-- Whether warnings of a name are ignored. -/
def allows (policy : Policy) (name : String) : Bool :=
  policy.allowed.contains everything || policy.allowed.contains name

/-- Whether warnings of a name are errors, unless they are ignored. -/
def denies (policy : Policy) (name : String) : Bool :=
  policy.denied.contains everything || policy.denied.contains name

/-- Whether a name means something in a policy. -/
def isKnown (name : String) : Bool :=
  name = everything || WarningKind.all.any (·.name = name)

/-- The names of a policy that mean nothing, each once, at its first place. -/
def unknownNames (policy : Policy) : List String :=
  ((policy.allowed ++ policy.denied).filter (!isKnown ·)).eraseDups

end Policy

/-- What to report on, by which policy, and in which form. -/
structure Config where
  inputs : List String := []
  policy : Policy := {}
  compact : Bool := false
  color : ColorChoice := .auto
  verbosity : Int := 0
deriving DecidableEq, Repr

/-- Why a configuration cannot be used. -/
inductive ConfigError where
  | noInputs
  | emptyName
deriving DecidableEq, Repr

/-- The error text. -/
def ConfigError.message : ConfigError → String
  | .noInputs => "no input dumps given"
  | .emptyName => "empty warning name in --allow/--deny"

/-- Whether a name consists of blanks. -/
def Policy.isBlankName (name : String) : Bool :=
  (Text.trim name.toList).isEmpty

/-- Check that there are inputs and that no name of the policy is blank. -/
def Config.validate (config : Config) : Except ConfigError Unit :=
  if config.inputs.isEmpty then .error .noInputs
  else if (config.policy.allowed ++ config.policy.denied).any Policy.isBlankName then
    .error .emptyName
  else .ok ()

end StoryLint
