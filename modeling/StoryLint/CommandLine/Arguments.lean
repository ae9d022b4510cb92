import StoryLint.Config

/-!
# What the arguments ask for

`Arguments` is the content of a command line. A switch can be left without its value: the
separator, attached to a switch, is no value. Such a command line is well formed, but no
configuration comes of it. `Arguments.config` gives the configuration otherwise, checked as
`Config.validate` checks one.
-/

namespace StoryLint.CommandLine

/-- The content of a command line. An absent name or colour stands for a switch without its
value. -/
structure Arguments where
  inputs : List String := []
  allowed : List (Option String) := []
  denied : List (Option String) := []
  compact : Bool := false
  color : Option ColorChoice := some .auto
  verbosity : Int := 0
deriving DecidableEq, Repr

/-- Why no configuration comes of a command line: a switch is without its value, or the
configuration cannot be used. -/
inductive Refusal where
  | missingValue
  | unusable (e : ConfigError)
deriving DecidableEq, Repr

/-- The error text. -/
def Refusal.message : Refusal → String
  | missingValue => "'list' object has no attribute 'strip'"
  | unusable e => e.message

namespace Arguments

/-- A name that a policy can have. -/
def checkName : Option String → Except Refusal String
  | none => .error .missingValue
  | some name =>
      if Policy.isBlankName name then .error (.unusable .emptyName) else .ok name

/-- The configuration that the arguments ask for. Of several faults the first counts, in the
order of colour, inputs, names to ignore, and names to deny. -/
def config (arguments : Arguments) : Except Refusal Config := do
  let some color := arguments.color | throw .missingValue
  if arguments.inputs.isEmpty then throw (.unusable .noInputs)
  let allowed ← arguments.allowed.mapM checkName
  let denied ← arguments.denied.mapM checkName
  return {
    inputs := arguments.inputs
    policy := { allowed, denied }
    compact := arguments.compact
    color
    verbosity := arguments.verbosity }

end Arguments

end StoryLint.CommandLine
