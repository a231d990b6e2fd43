import Grounded.Cli.Command

/-!
# Usage

What is shown to a user whose arguments make no invocation, or who asked for help or for the version.
-/

namespace Grounded.Cli

/-- The text shown for the error. -/
def UsageError.message : UsageError → String
  | unknownArgument => "unexpected argument"
  | unknownCommand => "unrecognized command"
  | missingCommand => "a command is needed"
  | missingOperand => "a required argument is missing"
  | conflict => "an argument cannot be used with another one, or not several times"
  | missingValue => "an option needs a value"
  | unexpectedValue => "an option takes no value"
  | badValue => "invalid value for an option"
  | help | helpInstead | version => ""

/-- An option in the list of options. -/
def OptionSpec.usage (o : OptionSpec) : String :=
  let short :=
    match o.short with
    | some c => "-" ++ String.singleton c ++ ", "
    | none => "    "
  "  " ++ short ++ "--" ++ o.long ++ if o.takesValue then " <VALUE>" else ""

/-- A command in the list of commands. -/
def CommandSpec.usageLine (c : CommandSpec) : String :=
  "  " ++ c.name ++ if c.operand then " <TEXT>" else ""

/-- How a command is used. -/
def CommandSpec.usage (c : CommandSpec) : String :=
  "\n".intercalate
    (("Usage: " ++ c.name ++ " [OPTIONS]" ++ (if c.operand then " <TEXT>" else "") ++
        (if c.commands.isEmpty then "" else " <COMMAND>")) ::
      (if c.commands.isEmpty then []
        else "" :: "Commands:" :: c.commands.map CommandSpec.usageLine) ++
      ["", "Options:"] ++ c.options.map OptionSpec.usage) ++ "\n"

/-- What is printed: to the first stream what was asked for, to the second one what is wrong. -/
def UsageError.report (e : UsageError) : String × String :=
  match e with
  | .help => (programSpec.usage, "")
  | .version => (programName ++ " " ++ programVersion ++ "\n", "")
  | .helpInstead => ("", programSpec.usage)
  | e => ("", "error: " ++ e.message ++ "\n\n" ++ programSpec.usage)

/-- The exit code. -/
def UsageError.exitCode : UsageError → Nat
  | .help | .version => 0
  | _ => 2

end Grounded.Cli
