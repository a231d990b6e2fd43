import Grounded.Cli.Preflight
import Grounded.Cli.Report
import Grounded.Source.CodeTree

/-!
# Diagnosis

Four groups of checks tell whether the program is ready: the credential, the stored index, the sources
and the configuration file. A check passes, passes with a warning, or fails; those that do not pass come
with a hint.
-/

namespace Grounded.Cli

/-- How a check went. -/
inductive CheckStatus where
  | ok
  | warning (hint : String)
  | error (hint : String)
deriving DecidableEq, Repr

namespace CheckStatus

/-- The mark of a check in the report. -/
def mark : CheckStatus → String
  | ok => "✓"
  | warning _ => "!"
  | error _ => "✗"

/-- What the user can do. -/
def hint? : CheckStatus → Option String
  | ok => none
  | warning hint | error hint => some hint

/-- Whether the check failed. -/
def isError : CheckStatus → Bool
  | error _ => true
  | _ => false

/-- Whether the check passed with a warning. -/
def isWarning : CheckStatus → Bool
  | warning _ => true
  | _ => false

end CheckStatus

/-- A check. -/
structure Check where
  name : String
  message : String
  status : CheckStatus := .ok
deriving DecidableEq, Repr

/-- The check in the report. -/
def Check.report (c : Check) : Report :=
  Report.line ("  " ++ c.status.mark ++ " " ++ c.name ++ " - " ++ c.message) ++
    match c.status.hint? with
    | some hint => Report.line ("    → " ++ hint)
    | none => {}

/-- A group of checks. -/
structure CheckGroup where
  title : String
  checks : List Check
deriving DecidableEq, Repr

/-- The group in the report. -/
def CheckGroup.report (g : CheckGroup) : Report :=
  Report.line g.title ++ Report.concat (g.checks.map Check.report) ++ Report.line ""

namespace Doctor

/-! ## The checks -/

/-- Keys of at most this length look cut off. -/
def shortKey : Nat := 8

/-- The check of the credential. Only the end of it is shown. -/
def credential (s : Settings) (env : Environment) : Check :=
  let name := s.backend.apiKeyEnv
  match s.apiKey? env with
  | some key =>
    if shortKey < key.length then
      ⟨name, "configured (..." ++ String.ofList (key.toList.drop (key.length - 4)) ++ ")", .ok⟩
    else ⟨name, "set but looks too short", .warning "Check the key value"⟩
  | none => ⟨name, "not set", .error ("Set with: " ++ credentialHint name)⟩

/-- The check of a file of the index. -/
def indexFile (d : Disk) (name path : String) : Check :=
  match d.size? path with
  | some size => ⟨name, path ++ " (" ++ Report.sizeText size ++ ")", .ok⟩
  | none => ⟨name, path ++ " not found", .error buildHint⟩

/-- What the manifest tells, if there is one. -/
def builtText : Option Manifest → String
  | some m => ", built " ++ m.builtAt.dateText ++ " " ++ m.builtAt.minuteText ++ " with " ++ m.embeddingModel
  | none => ""

/-- The check whether the files of the index fit together. -/
def consistency (d : Disk) (dir : String) : Check :=
  match KnowledgeIndex.load d dir with
  | .ok index =>
    ⟨"Consistency", s!"{index.size} chunks, {index.matrix.dims} dimensions" ++
      builtText (Manifest.load? d dir), .ok⟩
  | .error e => ⟨"Consistency", e.message, .error "Rebuild with: lore index"⟩

/-- The checks of the index. Whether its files fit together is asked only if they are there. -/
def index (d : Disk) (dir : String) : List Check :=
  let paths := IndexPaths.inDir dir
  let files :=
    [indexFile d IndexPaths.chunksFile paths.chunks,
     indexFile d IndexPaths.embeddingsFile paths.embeddings]
  if files.any (·.status.isError) then files else files ++ [consistency d dir]

/-- The check of the documentation pages. -/
def documentation (s : Settings) (env : Environment) (d : Disk) : Check :=
  match s.sources.htmlDir with
  | none => ⟨"Documentation", "fetched from " ++ s.sources.siteBaseUrl, .ok⟩
  | some dir =>
    let dir := env.expand dir
    let total := s.sources.detailPages.length
    let found := s.sources.detailPages.countP fun page => d.exists? (Path.join dir page)
    if found = total then ⟨"Documentation", s!"{found} pages", .ok⟩
    else
      ⟨"Documentation", s!"{found} of {total} pages in {dir}",
        .warning "Missing pages are skipped while indexing"⟩

/-- The check of the code. -/
def code (d : Disk) (codeDir : String) : Check :=
  let dir := Path.join codeDir CodeExtractor.cratesDir
  if d.isDir dir then ⟨"Code", dir, .ok⟩
  else ⟨"Code", dir ++ " not found", .warning "Set sources.code_dir or pass --code-dir"⟩

/-- The check of the design documents. -/
def designDocs (s : Settings) (d : Disk) (codeDir : String) : Check :=
  let missing :=
    (s.sources.designDocs.map (·.path)).filter fun path => !d.exists? (Path.join codeDir path)
  if missing.isEmpty then ⟨"Design docs", s!"{s.sources.designDocs.length} documents", .ok⟩
  else
    ⟨"Design docs", "missing: " ++ ", ".intercalate missing,
      .warning "Missing documents are skipped while indexing"⟩

/-- The check of the configuration file. -/
def configFile (d : Disk) (path : String) : Check :=
  if d.exists? path then ⟨"Config file", path, .ok⟩
  else ⟨"Config file", "using defaults", .warning ("Create " ++ path ++ " to override")⟩

/-- All checks, in groups. -/
def groups (s : Settings) (env : Environment) (d : Disk) (configPath : String) : List CheckGroup :=
  let codeDir := s.codeDir env
  [⟨"API Configuration", [credential s env]⟩, ⟨"Index", index d (s.indexDir env)⟩,
   ⟨"Sources", [documentation s env d, code d codeDir, designDocs s d codeDir]⟩,
   ⟨"Configuration", [configFile d configPath]⟩]

/-! ## The report -/

/-- The last line of the report. The program fails if a check does. -/
def verdict (checks : List Check) : Report :=
  let errors := checks.countP (·.status.isError)
  let warnings := checks.countP (·.status.isWarning)
  if 0 < errors then
    { Report.warning s!"{errors} error(s) found. Please fix them before using Lore." with exitCode := 1 }
  else if 0 < warnings then Report.warning s!"All checks passed with {warnings} warning(s)."
  else Report.info "All checks passed! Lore is ready to use."

/-- The report of a diagnosis. -/
def report (s : Settings) (env : Environment) (d : Disk) (configPath : String) : Report :=
  let found := groups s env d configPath
  Report.header "Lore Doctor" ++ Report.line "" ++ Report.concat (found.map CheckGroup.report) ++
    verdict (found.flatMap (·.checks))

end Doctor

end Grounded.Cli
