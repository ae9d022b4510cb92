import StoryLint.CommandLine.Arguments
import StoryLint.CommandLine.Switch
import StoryLint.Text.Digit
import StoryLint.Text.Search

/-!
# Reading the command line

`parse` reads the arguments of the program into an `Arguments`. Every argument is first sorted
into a token: a switch, possibly with a value attached, an operand, or the separator `--`, behind
which everything is an operand. Then the tokens are consumed in order. The inputs are one group
of operands without a switch in between; operands outside it are not recognized.
-/

namespace StoryLint.CommandLine

/-- An argument by its role. `short` says that a switch is spelled with one dash, and `attached`
is what stands behind the spelling in the same argument. -/
inductive Token where
  | separator
  | operand (text : String)
  | switch (switch : Switch) (short : Bool) (attached : Option (List Char))
  | unknown (text : String)
deriving DecidableEq, Repr

/-- A spelling, with what stands behind its first equals sign. -/
def splitValue (argument : List Char) : List Char × Option (List Char) :=
  match Text.splitFirst? ['='] argument with
  | some (spelling, value) => (spelling, some value)
  | none => (argument, none)

/-- Whether an argument is spelled with one dash. -/
def isShort (argument : List Char) : Bool :=
  argument.drop 1 |>.head? |>.any (· ≠ '-')

/-- The role of an argument that starts with a dash and is no switch. -/
def otherToken (argument : List Char) : Token :=
  let text := String.ofList argument
  if Text.looksNegative argument || argument.contains ' ' then .operand text else .unknown text

/-- The role of an argument that starts with a dash, has more than one character, and is no full
spelling: a shortened long spelling, or a short switch with characters behind it. -/
def shortenedToken (argument : List Char) : Except UsageError Token :=
  if isShort argument then
    match Switch.ofSpelling? (argument.take 2) with
    | some s => .ok (.switch s true (some (argument.drop 2)))
    | none => .ok (otherToken argument)
  else
    let (spelling, attached) := splitValue argument
    match Switch.spellings.filter fun (name, _) => spelling.isPrefixOf name.toList with
    | [] => .ok (otherToken argument)
    | [(_, s)] => .ok (.switch s false attached)
    | several => .error (.ambiguous (String.ofList argument) (several.map (·.1)))

/-- The role of an argument before the separator. -/
def tokenOf (argument : List Char) : Except UsageError Token :=
  if argument.head? ≠ some '-' then .ok (.operand (String.ofList argument))
  else
    match Switch.ofSpelling? argument with
    | some s => .ok (.switch s (isShort argument) none)
    | none =>
        if argument.length = 1 then .ok (.operand (String.ofList argument))
        else
          let (spelling, attached) := splitValue argument
          match attached, Switch.ofSpelling? spelling with
          | some value, some s => .ok (.switch s (isShort spelling) (some value))
          | _, _ => shortenedToken argument

/-- The tokens of the arguments. -/
def tokens : List String → Except UsageError (List Token)
  | [] => return []
  | argument :: rest =>
      if argument = "--" then return .separator :: rest.map .operand
      else do
        let first ← tokenOf argument.toList
        let others ← tokens rest
        return first :: others

/-! ## Switches in one argument -/

/-- What one argument asks for: switches with their values, then possibly a switch that waits for
the next argument as its value. A switch that takes a value and has none is left without it. -/
structure Cluster where
  switches : List (Switch × Option String) := []
  waiting : Option Switch := none
deriving DecidableEq, Repr

/-- The value in an attached text. The separator is none. -/
def attachedValue (text : List Char) : Option String :=
  if text = ['-', '-'] then none else some (String.ofList text)

/-- The switches of an argument. Short switches without a value may share one dash; what follows
the first of them is read as further switches. -/
def cluster (s : Switch) (short : Bool) : Option (List Char) → Except UsageError Cluster
  | none => .ok (if s.takesValue then { waiting := some s } else { switches := [(s, none)] })
  | some text =>
      if s.takesValue then .ok { switches := [(s, attachedValue text)] }
      else
        match short, text with
        | true, c :: rest =>
            match Switch.ofSpelling? ['-', c] with
            | none => .error (.ignoredArgument s (String.ofList (c :: rest)))
            | some next => do
                let others ← cluster next true (if rest.isEmpty then none else some rest)
                return { others with switches := (s, none) :: others.switches }
        | _, _ => .error (.ignoredArgument s (String.ofList text))
termination_by attached => (attached.map fun text => text.length + 1).getD 0
decreasing_by
  cases rest <;> simp

/-! ## Consuming tokens -/

/-- What has been read of the command line. -/
structure Settings where
  arguments : Arguments := {}
  hasInputs : Bool := false
  leftovers : List String := []
deriving DecidableEq, Repr

namespace Settings

/-- The colour choice of a value, which may be absent. -/
def colorOf : Option String → Except EarlyExit (Option ColorChoice)
  | none => .ok none
  | some word =>
      match ColorChoice.ofName word with
      | .ok choice => .ok (some choice)
      | .error _ => .error (.usage (.invalidColor word))

/-- Set one switch. -/
def apply (settings : Settings) (s : Switch) (value : Option String) :
    Except EarlyExit Settings :=
  let arguments := settings.arguments
  match s with
  | .help => .error .help
  | .version => .error .version
  | .allow =>
      .ok { settings with arguments.allowed := arguments.allowed ++ [value] }
  | .deny =>
      .ok { settings with arguments.denied := arguments.denied ++ [value] }
  | .compact => .ok { settings with arguments.compact := true }
  | .color => do
      let color ← colorOf value
      return { settings with arguments.color := color }
  | .verbose => .ok { settings with arguments.verbosity := arguments.verbosity + 1 }

/-- Set switches in order. -/
def applyAll (settings : Settings) :
    List (Switch × Option String) → Except EarlyExit Settings
  | [] => .ok settings
  | (s, value) :: rest => do applyAll (← settings.apply s value) rest

/-- Keep arguments that are not recognized. -/
def leave (settings : Settings) (arguments : List String) : Settings :=
  { settings with leftovers := settings.leftovers ++ arguments }

/-- Take a group of operands and separators: as the inputs, if there are none yet and the group
has an operand, and as leftovers otherwise. -/
def takeGroup (settings : Settings) (group : List Token) : Settings :=
  let operands := group.filterMap fun t =>
    match t with
    | .operand text => some text
    | _ => none
  if settings.hasInputs || operands.isEmpty then
    settings.leave (group.map fun t =>
      match t with
      | .operand text => text
      | _ => "--")
  else { settings with arguments.inputs := operands, hasInputs := true }

end Settings

/-- Whether a token belongs to a group of inputs. -/
def Token.inGroup : Token → Bool
  | separator | operand _ => true
  | switch _ _ _ | unknown _ => false

/-- Consume tokens in order. -/
def consume (settings : Settings) : List Token → Except EarlyExit Settings
  | [] => .ok settings
  | .switch s short attached :: rest =>
      match cluster s short attached with
      | .error e => .error (.usage e)
      | .ok c =>
          match c.waiting with
          | none => do consume (← settings.applyAll c.switches) rest
          | some waiting =>
              match rest with
              | .operand value :: rest => do
                  consume (← settings.applyAll (c.switches ++ [(waiting, some value)])) rest
              | _ => .error (.usage (.expectedArgument waiting))
  | .unknown text :: rest => consume (settings.leave [text]) rest
  | token :: rest =>
      consume (settings.takeGroup (token :: rest.takeWhile Token.inGroup))
        (rest.dropWhile Token.inGroup)
termination_by tokens => tokens.length
decreasing_by
  · exact Nat.lt_succ_self _
  · simp only [List.length_cons]; omega
  · exact Nat.lt_succ_self _
  · exact Nat.lt_succ_of_le (List.dropWhile_sublist _).length_le

/-- The content of a command line. -/
def parse (arguments : List String) : Except EarlyExit Arguments :=
  match tokens arguments with
  | .error e => .error (.usage e)
  | .ok list => do
      let settings ← consume {} list
      if !settings.hasInputs then throw (.usage .missingInputs)
      else if !settings.leftovers.isEmpty then throw (.usage (.unrecognized settings.leftovers))
      else return settings.arguments

end StoryLint.CommandLine
