import Grounded.Cli.Arguments

/-!
# Commands

What the program can be told to do. The options for the configuration file and for verbosity may stand
at any command of a chain; of several, the last one in the chain counts.
-/

namespace Grounded.Cli

/-- What the program is told to do. -/
inductive Command where
  /-- Builds the index. -/
  | index (htmlDir : Option String) (fetchHtml : Bool) (codeDir outputDir : Option String)
  /-- Answers a question, perhaps with the passages that the answer is grounded on. -/
  | ask (question : String) (sources : Bool)
  /-- Shows the passages for a query. -/
  | search (query : String) (limit : Option Nat) (minScore : Option Single)
  | chat
  | health
  /-- Checks credentials, index and sources. -/
  | doctor
  | configShow
  | configPath
deriving DecidableEq, Repr

/-- A command with the options that every command has. -/
structure Invocation where
  verbose : Nat
  config : Option String
  command : Command
deriving DecidableEq, Repr

/-! ## The form of the arguments -/

/-- The options of every command. -/
def commonOptions : List OptionSpec :=
  [⟨"verbose", some 'v', .count⟩, ⟨"config", some 'c', .value .text⟩, ⟨"help", some 'h', .help⟩]

/-- A command at the end of a chain. -/
def leaf (name : String) (options : List OptionSpec) (operand : Bool)
    (conflicts : List (String × String)) : CommandSpec :=
  .mk name (options ++ commonOptions) operand conflicts []

/-- The command that builds the index. -/
def indexSpec : CommandSpec :=
  leaf "index"
    [⟨"html-dir", none, .value .text⟩, ⟨"fetch-html", none, .flag⟩, ⟨"code-dir", none, .value .text⟩,
     ⟨"output-dir", some 'o', .value .text⟩]
    false [("html-dir", "fetch-html")]

/-- The command that answers a question. -/
def askSpec : CommandSpec := leaf "ask" [⟨"sources", some 's', .flag⟩] true []

/-- The command that shows passages. -/
def searchSpec : CommandSpec :=
  leaf "search"
    [⟨"limit", some 'l', .value .natural⟩, ⟨"min-score", some 'm', .value .single⟩] true []

/-- The commands on the configuration. -/
def configSpec : CommandSpec :=
  .mk "config" commonOptions false [] [leaf "show" [] false [], leaf "path" [] false []]

/-- The name of the program. -/
def programName : String := "lore"

/-- The version of the program. -/
def programVersion : String := "0.1.0"

/-- The program itself. -/
def programSpec : CommandSpec :=
  .mk programName (commonOptions ++ [⟨"version", some 'V', .version⟩]) false []
    [indexSpec, askSpec, searchSpec, leaf "chat" [] false [], leaf "health" [] false [],
     leaf "doctor" [] false [], configSpec]

/-! ## The meaning of the arguments -/

/-- The greatest verbosity that is told apart. -/
def maxVerbose : Nat := 255

/-- The verbosity that the last command with any gives. -/
def verbosity (chain : List Given) : Nat :=
  match (chain.map (·.count "verbose")).find? (0 < ·) with
  | some n => min n maxVerbose
  | none => 0

/-- The configuration file that the last command with one gives. -/
def configFile (chain : List Given) : Option String := chain.findSome? (·.value? "config")

/-- The command that the last name of a chain and what was given to it stand for. -/
def command? (name : String) (g : Given) : Option Command :=
  match name with
  | "index" =>
    some (.index (g.value? "html-dir") (g.has "fetch-html") (g.value? "code-dir")
      (g.value? "output-dir"))
  | "ask" => g.operand.map (.ask · (g.has "sources"))
  | "search" =>
    g.operand.map fun query =>
      .search query
        ((g.value? "limit").bind fun s => Text.natural? Text.wordBound s.toList)
        ((g.value? "min-score").bind fun s => Single.ofText? s.toList)
  | "chat" => some .chat
  | "health" => some .health
  | "doctor" => some .doctor
  | "show" => some .configShow
  | "path" => some .configPath
  | _ => none

/-- The invocation that arguments stand for. -/
def Invocation.parse (args : List String) : Except UsageError Invocation := do
  match ← read programSpec args with
  | (name :: _, g :: above) =>
    match command? name g with
    | some command => return ⟨verbosity (g :: above), configFile (g :: above), command⟩
    | none => throw .missingCommand
  | _ => throw .missingCommand

end Grounded.Cli
