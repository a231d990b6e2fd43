import Grounded.Number.Numeral

/-!
# Arguments

The arguments of a program are options, operands and the names of commands. An option is written
`--name`, or `-n` if it has a short form; short ones may be run together. A value follows its option, or
is attached to it: `--name=value`, `-nvalue`, `-n=value`. After `--`, everything is an operand. A command
has its own options and commands; what follows its name belongs to it.

What a value should be is checked only when the option is complete, that is when the next option or
operand begins, so that an unknown option just behind it is found first.
-/

namespace Grounded.Cli

open Text

/-- Why arguments make no invocation. -/
inductive UsageError where
  | unknownArgument
  | unknownCommand
  | missingCommand
  | missingOperand
  /-- Two arguments that may not stand together, or one that may not stand twice. -/
  | conflict
  | missingValue
  /-- A value attached to an option that takes none. -/
  | unexpectedValue
  | badValue
  /-- The user asked for help. -/
  | help
  /-- A command that does nothing by itself was given alone. -/
  | helpInstead
  /-- The user asked for the version. -/
  | version
deriving DecidableEq, Repr

/-- What a value has to be. -/
inductive ValueForm where
  | text
  | natural
  | single
deriving DecidableEq, Repr

/-- Whether a text is such a value. -/
def ValueForm.accepts : ValueForm → String → Bool
  | text, _ => true
  | natural, s => (natural? wordBound s.toList).isSome
  | single, s => (Single.ofText? s.toList).isSome

/-- What an option is for. -/
inductive OptionRole where
  /-- May be repeated, and counts. -/
  | count
  | flag
  | value (form : ValueForm)
  | help
  | version
deriving DecidableEq, Repr

/-- An option. -/
structure OptionSpec where
  long : String
  short : Option Char
  role : OptionRole
deriving DecidableEq, Repr

/-- Whether the option takes a value. -/
def OptionSpec.takesValue (o : OptionSpec) : Bool :=
  match o.role with
  | .value _ => true
  | _ => false

/-- A command: its options, whether it takes an operand, and the commands below it. -/
inductive CommandSpec where
  | mk (name : String) (options : List OptionSpec) (operand : Bool)
    (conflicts : List (String × String)) (commands : List CommandSpec)

namespace CommandSpec

/-- The name of the command. -/
def name : CommandSpec → String
  | mk name .. => name

/-- The options of the command. -/
def options : CommandSpec → List OptionSpec
  | mk _ options .. => options

/-- Whether the command takes one operand, which then is needed. -/
def operand : CommandSpec → Bool
  | mk _ _ operand .. => operand

/-- Pairs of options that may not stand together. -/
def conflicts : CommandSpec → List (String × String)
  | mk _ _ _ conflicts _ => conflicts

/-- The commands below this one. If there are any, one of them is needed. -/
def commands : CommandSpec → List CommandSpec
  | mk _ _ _ _ commands => commands

/-- The command of that name below this one. -/
def find? (c : CommandSpec) (name : String) : Option CommandSpec :=
  c.commands.find? (·.name == name)

/-- The option with that long name. -/
def long? (c : CommandSpec) (name : String) : Option OptionSpec :=
  c.options.find? (·.long == name)

/-- The option with that short name. -/
def short? (c : CommandSpec) (name : Char) : Option OptionSpec :=
  c.options.find? (·.short == some name)

end CommandSpec

/-- The command that tells about other commands. -/
def helpName : String := "help"

/-- What was given to one command. -/
structure Given where
  /-- The options by their long names, with their values, in order. -/
  options : List (String × String) := []
  operand : Option String := none
  /-- The last option, as long as it may not be complete, with its value if that has come. -/
  pending : Option (OptionSpec × Option String) := none
deriving Repr

namespace Given

/-- Whether the option was given. -/
def has (g : Given) (name : String) : Bool := g.options.any (·.1 == name)

/-- The value of the option. -/
def value? (g : Given) (name : String) : Option String := List.lookup name g.options

/-- How often the option was given. -/
def count (g : Given) (name : String) : Nat := g.options.countP (·.1 == name)

/-- Records an option. -/
def add (g : Given) (o : OptionSpec) (value : String) : Given :=
  { g with options := g.options ++ [(o.long, value)] }

/-- Takes in an option that takes a value. -/
def addValue (g : Given) (o : OptionSpec) (form : ValueForm) (value : Option String) :
    Except UsageError Given :=
  match value with
  | none => throw .missingValue
  | some value =>
    if g.has o.long then throw .conflict
    else if !form.accepts value then throw .badValue
    else return g.add o value

/-- Completes the last option. -/
def settle (g : Given) : Except UsageError Given :=
  match g.pending with
  | some (⟨long, short, .value form⟩, value) =>
    addValue { g with pending := none } ⟨long, short, .value form⟩ form value
  | _ => return { g with pending := none }

/-- Takes in an option without a value. -/
def addFlag (g : Given) (o : OptionSpec) : Except UsageError Given := do
  let g ← g.settle
  match o.role with
  | .count => return g.add o ""
  | .help => throw .help
  | .version => throw .version
  | _ => if g.has o.long then throw .conflict else return g.add o ""

/-- Takes in an option with the value that is attached to it, or waits for its value. -/
def addOption (g : Given) (o : OptionSpec) (attached : Option String) :
    Except UsageError Given := do
  let g ← g.settle
  let g := { g with pending := some (o, attached) }
  if attached.isSome then g.settle else return g

/-- Whether the next argument is taken for a value. -/
def awaitsValue (g : Given) : Bool :=
  match g.pending with
  | some (_, none) => true
  | _ => false

/-- Takes in the value that the last option waits for. -/
def takeValue (g : Given) (value : String) : Given :=
  { g with pending := g.pending.map fun (o, _) => (o, some value) }

end Given

/-- Takes in the options that are run together after one dash. -/
def addShort (c : CommandSpec) (g : Given) : List Char → Except UsageError Given
  | [] => return g
  | name :: rest =>
    match c.short? name with
    | none => throw .unknownArgument
    | some o =>
      if o.takesValue then
        match rest with
        | [] => g.addOption o none
        | '=' :: value => g.addOption o (some (String.ofList value))
        | value => g.addOption o (some (String.ofList value))
      else do addShort c (← g.addFlag o) rest

/-- Takes in an option with a long name, perhaps with a value behind a sign of equality. -/
def addLong (c : CommandSpec) (g : Given) (s : List Char) : Except UsageError Given :=
  let name := s.takeWhile (· != '=')
  let attached :=
    match s.dropWhile (· != '=') with
    | _ :: value => some (String.ofList value)
    | [] => none
  match c.long? (String.ofList name) with
  | none => throw .unknownArgument
  | some o =>
    if o.takesValue then g.addOption o attached
    else if attached.isSome then throw .unexpectedValue
    else g.addFlag o

/-- How far the arguments are read. -/
structure Reading where
  /-- The commands above the present one, the nearest first, with what was given to them. -/
  above : List (CommandSpec × Given) := []
  command : CommandSpec
  given : Given := {}
  /-- Whether everything that follows is an operand. -/
  operandsOnly : Bool := false

namespace Reading

/-- Takes in an operand. -/
def addOperand (r : Reading) (arg : String) : Except UsageError Reading := do
  if r.command.operand && r.given.operand.isNone then
    return { r with given := { ← r.given.settle with operand := some arg } }
  else if r.command.commands.isEmpty then throw .unknownArgument
  else if r.operandsOnly && (arg == helpName || (r.command.find? arg).isSome) then
    throw .unknownArgument
  else throw .unknownCommand

/-- The answer to a request for help on the command that the names lead to. -/
def helpOn (c : CommandSpec) : List String → UsageError
  | [] => .help
  | name :: rest =>
    match c.find? name with
    | some sub => helpOn sub rest
    | none => if name == helpName && !c.commands.isEmpty && rest.isEmpty then .help else .unknownCommand

/-- Takes in the name of a command: what follows belongs to it. -/
def enter (r : Reading) (sub : CommandSpec) : Reading :=
  { above := (r.command, r.given) :: r.above, command := sub }

/-- Takes in an argument that is not the name of a command, where options may stand. -/
def addArgument (r : Reading) (arg : String) : Except UsageError Reading :=
  match arg.toList with
  | '-' :: '-' :: [] => return { r with operandsOnly := true }
  | '-' :: '-' :: name => return { r with given := ← addLong r.command r.given name }
  | '-' :: name :: more => return { r with given := ← addShort r.command r.given (name :: more) }
  | _ =>
    if r.given.awaitsValue then return { r with given := r.given.takeValue arg }
    else r.addOperand arg

/-- Reads arguments to their end. -/
def addAll (r : Reading) : List String → Except UsageError Reading
  | [] => return r
  | arg :: rest => do
    if r.operandsOnly then (← r.addOperand arg).addAll rest
    else if r.given.awaitsValue then (← r.addArgument arg).addAll rest
    else if arg == helpName && !r.command.commands.isEmpty then throw (helpOn r.command rest)
    else
      match r.command.find? arg with
      | some sub => (r.enter sub).addAll rest
      | none => (← r.addArgument arg).addAll rest

end Reading

/-- Checks what was given to a command; `last` says that no command below it was named. -/
def complete (c : CommandSpec) (g : Given) (last : Bool) : Except UsageError Given := do
  let g ← g.settle
  if last && !c.commands.isEmpty then
    throw (if g.options.isEmpty && g.operand.isNone then .helpInstead else .missingCommand)
  else if c.conflicts.any fun (a, b) => g.has a && g.has b then throw .conflict
  else if c.operand && g.operand.isNone then throw .missingOperand
  else return g

/-- What was given to the commands above another one, the nearest first. -/
def completeAbove : List (CommandSpec × Given) → Except UsageError (List Given)
  | [] => return []
  | (c, g) :: rest => do
    let g ← complete c g false
    return g :: (← completeAbove rest)

/--
Reads the arguments of a command: the names of the commands that they lead to and what was given to each
of them, the last one first.
-/
def read (c : CommandSpec) (args : List String) :
    Except UsageError (List String × List Given) := do
  let r ← Reading.addAll { command := c } args
  let last ← complete r.command r.given true
  let above ← completeAbove r.above
  return (r.command.name :: r.above.map (·.1.name), last :: above)

end Grounded.Cli
