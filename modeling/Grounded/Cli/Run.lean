import Grounded.Chat.Session
import Grounded.Cli.Command
import Grounded.Cli.Doctor
import Grounded.Index.Build

/-!
# Running commands

A command is run in an environment on a file system; what it needs besides these comes from the services
that it is handed. The result is a report and the file system afterwards.
-/

namespace Grounded.Cli

/-- Where a command runs. -/
structure World (m : Type → Type) where
  env : Environment
  disk : Disk
  services : Services m

variable {m : Type → Type} [Monad m]

/-! ## Building an index -/

/-- Where the documentation pages come from: the site if it is asked for, else a directory. -/
def siteSource (s : Settings) (env : Environment) (htmlDir : Option String) (fetchHtml : Bool) :
    SiteSource :=
  if fetchHtml then .fetch
  else
    match htmlDir.or s.sources.htmlDir with
    | some dir => .dir (env.expand dir)
    | none => .skip

/-- The warning that there are no documentation pages. -/
def siteWarning : SiteSource → Report
  | .skip => Report.warning "Documentation skipped (provide --html-dir or --fetch-html)"
  | _ => {}

/-- A file that was written. -/
def savedFile (d : Disk) (path : String) : Report :=
  let size := ((d.size? path).map Report.sizeText).getD "unknown size"
  Report.entry "Saved" (path ++ " (" ++ size ++ ")")

/-- The report of an index that was built. -/
def builtReport (d : Disk) (s : IndexSummary) : Report :=
  Report.concat
    [Report.header "Index built", Report.entry "Docs chunks" (toString s.docs),
     Report.entry "Code chunks" (toString s.code), Report.entry "Design chunks" (toString s.design),
     Report.entry "Embedding matrix" s!"({s.rows}, {s.dims})", savedFile d s.paths.chunks,
     savedFile d s.paths.embeddings]

/-- A failure that is told before the program ends with it. -/
def told (label : String) (e : Error) : Report :=
  Report.warning (label ++ e.message) ++ Report.failure e

/-- Builds the index. -/
def runIndex (w : World m) (s : Settings) (htmlDir : Option String) (fetchHtml : Bool)
    (codeDir outputDir : Option String) : m (Report × Disk) := do
  match preflight .index s w.env w.disk with
  | .error e => return (told "" e, w.disk)
  | .ok () =>
    let site := siteSource s w.env htmlDir fetchHtml
    match IndexBuilder.ofSettings s w.env w.services with
    | .error e => return (siteWarning site ++ Report.failure e, w.disk)
    | .ok builder =>
      let code := (codeDir.map w.env.expand).getD (s.codeDir w.env)
      let output := (outputDir.map w.env.expand).getD (s.indexDir w.env)
      let (result, disk) ← builder.build w.disk site code output
      match result with
      | .ok summary => return (siteWarning site ++ builtReport disk summary, disk)
      | .error e => return (siteWarning site ++ told "Indexing failed: " e, disk)

/-! ## Questions -/

/-- The engine of the settings. -/
def engine (w : World m) (s : Settings) : Except Error (Engine m) :=
  Engine.ofSettings s w.disk w.env w.services.transport

/-- The passages that an answer is grounded on. -/
def sourcesReport (passages : List Passage) : Report :=
  if passages.isEmpty then {}
  else Report.header "Sources" ++ Report.concat (passages.map (Report.passage 100))

/-- Answers a question. -/
def runAsk (w : World m) (s : Settings) (question : String) (sources : Bool) : m Report := do
  match engine w s with
  | .error e => return Report.failure e
  | .ok engine =>
    let (answer, passages) ← engine.answerWithSources question []
    return Report.line ("\n" ++ answer ++ "\n") ++ if sources then sourcesReport passages else {}

/-- The report of a search. -/
def foundReport (passages : List Passage) : Report :=
  if passages.isEmpty then Report.warning "No results found matching your query."
  else
    Report.info s!"Found {passages.length} results" ++
      Report.concat (passages.map (Report.passage 200))

/-- Shows the passages for a query. -/
def runSearch (w : World m) (s : Settings) (query : String) (limit : Option Nat)
    (minScore : Option Single) : m Report := do
  match preflight .search s w.env w.disk with
  | .error e => return told "" e ++ Report.info "Run 'lore doctor' for detailed diagnostics."
  | .ok () =>
    match engine w s with
    | .error e => return Report.failure e
    | .ok engine =>
      match ← (engine.search query limit minScore).run with
      | .ok passages => return foundReport passages
      | .error e => return told "Search failed: " e

/-! ## Sessions -/

/-- What is shown before the first line of a session. -/
def sessionOpening (s : Settings) (e : Engine m) : Report :=
  Report.concat
    [if e.isConfigured then {}
      else Report.warning (s.backend.apiKeyEnv ++ " is not set; answers will not be generated."),
     if e.index.isSome then {} else Report.warning "No index loaded. Build one with: lore index",
     Report.header "Lore Chat",
     Report.line ("Type your questions, or 'exit' to quit. " ++
       "Use 'clear' to start a new conversation.\n")]

/-- What is shown before each line of the user. -/
def sessionPrompt : Report := Report.text "You: "

/-- What is shown of a reaction. -/
def reactionReport : Reaction → Report
  | .skipped => {}
  | .left => Report.info "Goodbye!"
  | .cleared => Report.info "Conversation history cleared."
  | .replied text => Report.line ("\nLore: " ++ text ++ "\n")

/-- The report of a session: a prompt stands before every line, and before the end of the input. -/
def sessionReport (reactions : List Reaction) : Report :=
  Report.concat (reactions.map fun r => sessionPrompt ++ reactionReport r) ++
    if reactions.getLast? = some .left then {} else sessionPrompt

/-- Runs a session on the lines of the user. -/
def runChat (w : World m) (s : Settings) (lines : List String) : m Report := do
  match engine w s with
  | .error e => return Report.failure e
  | .ok engine =>
    return sessionOpening s engine ++ sessionReport (← Session.run engine.answer [] lines)

/-! ## All commands -/

/-- Runs a command. `configPath` is the configuration file, and `lines` are the lines of the user. -/
def runCommand (w : World m) (s : Settings) (configPath : String) (lines : List String) :
    Command → m (Report × Disk)
  | .index htmlDir fetchHtml codeDir outputDir => runIndex w s htmlDir fetchHtml codeDir outputDir
  | .ask question sources => return (← runAsk w s question sources, w.disk)
  | .search query limit minScore => return (← runSearch w s query limit minScore, w.disk)
  | .chat => return (← runChat w s lines, w.disk)
  | .health => return (Report.line Engine.health, w.disk)
  | .doctor => return (Doctor.report s w.env w.disk configPath, w.disk)
  | .configShow => return (Report.line s.toText, w.disk)
  | .configPath => return (Report.line configPath, w.disk)

/-- The configuration file of an invocation. -/
def Invocation.configPath (i : Invocation) (env : Environment) : String :=
  (i.config.map env.expand).getD env.configPath

/-- Runs an invocation: reads the configuration file, then runs the command. -/
def Invocation.run (i : Invocation) (w : World m) (lines : List String) : m (Report × Disk) := do
  match Settings.load w.disk (i.configPath w.env) with
  | .error e => return (Report.failure e, w.disk)
  | .ok settings => runCommand w settings (i.configPath w.env) lines i.command

end Grounded.Cli
