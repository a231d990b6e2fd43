import Grounded.Config.Environment
import Grounded.Error
import Grounded.Text.Digits
import Grounded.Toml.Read
import Grounded.Toml.Write

/-!
# Settings

The settings of the program, by section. Every setting has a default; a configuration file gives the
ones that differ.
-/

namespace Grounded

/-- General settings. -/
structure GeneralSettings where
  /-- The level of log messages when none is asked for. -/
  logLevel : String := "warn"
deriving DecidableEq, Repr

/-- How to reach the model backend. -/
structure BackendSettings where
  apiBase : String := "https://api.mistral.ai/v1"
  /-- The environment variable that holds the credential. -/
  apiKeyEnv : String := "MISTRAL_API_KEY"
  timeoutSecs : Nat := 300
deriving DecidableEq, Repr

/-- How chunks are embedded. -/
structure EmbeddingSettings where
  model : String := "mistral-embed"
  /-- The number of texts in one request while an index is built. -/
  batchSize : Nat := 25
  /-- The pause between requests while an index is built. -/
  rateLimitPauseSecs : Nat := 35
deriving DecidableEq, Repr

/-- How answers are generated. -/
structure GenerationSettings where
  model : String := "mistral-small-latest"
  temperature : Single := ⟨0x3E99999A⟩
  maxOutputTokens : Nat := 500
deriving DecidableEq, Repr

/-- How sources are cut into chunks, in characters. -/
structure ChunkingSettings where
  docsMaxChars : Nat := 1500
  codeMaxChars : Nat := 2000
  overlapChars : Nat := 100
  minChunkChars : Nat := 50
  minFragmentChars : Nat := 20
deriving DecidableEq, Repr

/-- How passages are chosen. -/
structure RetrievalSettings where
  topK : Nat := 4
  /-- Passages have to score above this. -/
  minScore : Single := ⟨0x3E99999A⟩
deriving DecidableEq, Repr

/-- Limits of questions and sessions. -/
structure LimitSettings where
  maxInputChars : Nat := 500
  maxQuestionsPerSession : Nat := 30
  /-- How many of the last turns the generator sees. -/
  historyWindow : Nat := 8
deriving DecidableEq, Repr

/-- A design document, with the label for text that stands before its first heading. -/
structure DesignDoc where
  path : String
  label : String
deriving DecidableEq, Repr

/-- What an index is built from. -/
structure SourceSettings where
  /-- The directory of the documentation pages. -/
  htmlDir : Option String := none
  /-- The address of the documentation pages. -/
  siteBaseUrl : String := "https://clenoble.github.io/sovereign"
  detailPages : List String :=
    ["detail-action-gravity.html", "detail-ai-orchestrator.html", "detail-communications.html",
     "detail-content-skills.html", "detail-encryption.html", "detail-ethics.html",
     "detail-prompt-injection.html", "detail-social-recovery.html", "detail-spatial-canvas.html"]
  /-- The page with the knowledge block. -/
  knowledgePage : String := "index.html"
  /-- The name of the knowledge block. -/
  knowledgeBlock : String := "SOVEREIGN_KNOWLEDGE"
  /-- The directory of the project, which holds the crates and the design documents. -/
  codeDir : String := "."
  designDocs : List DesignDoc :=
    [⟨"CLAUDE.md", "Project Architecture"⟩,
     ⟨"doc/spec/sovereign_os_ux_principles.md", "UX Principles"⟩,
     ⟨"doc/design/design_decisions.md", "Design Decisions"⟩,
     ⟨"doc/spec/sovereign_os_specification.md", "GE Specification"⟩,
     ⟨"doc/legal/sovereign_os_ethics.md", "Ethics Charter"⟩]
deriving DecidableEq, Repr

/-- Where the index is stored. -/
structure IndexSettings where
  dir : String := "~/.lore/index"
deriving DecidableEq, Repr

/-- How prompts are customized. -/
structure PromptSettings where
  customDir : Option String := none
  /-- Variables that may stand in every prompt. -/
  bindings : List (String × String) := []
deriving DecidableEq, Repr

/-- All settings. -/
structure Settings where
  general : GeneralSettings := {}
  backend : BackendSettings := {}
  embedding : EmbeddingSettings := {}
  generation : GenerationSettings := {}
  chunking : ChunkingSettings := {}
  retrieval : RetrievalSettings := {}
  limits : LimitSettings := {}
  sources : SourceSettings := {}
  index : IndexSettings := {}
  prompts : PromptSettings := {}
deriving DecidableEq, Repr

/-! ## Reading -/

namespace Toml

/-- The text of a field that may be missing. -/
def textOr (default : String) : Option Toml → Option String := fieldOr default text?

/-- The natural number of a field that may be missing. -/
def natOr (default : Nat) : Option Toml → Option Nat := fieldOr default (nat? Text.wordBound)

/-- The optional text of a field that may be missing. -/
def optionOr (default : Option String) : Option Toml → Option (Option String) :=
  fieldOr default fun t => t.text?.map some

/-- The texts of a list. -/
def texts? (t : Toml) : Option (List String) := do (← t.elements?).mapM text?

/-- The table of texts. -/
def textTable? (t : Toml) : Option (List (String × String)) := do
  (← t.entries?).mapM fun (key, value) => value.text?.map (key, ·)

end Toml

open Toml

/-- The section that a value describes. -/
def GeneralSettings.ofToml? (t : Toml) : Option GeneralSettings := do
  let d : GeneralSettings := {}
  match ← t.fields? ["log_level"] with
  | [level] => some ⟨← textOr d.logLevel level⟩
  | _ => none

/-- The section that a value describes. -/
def BackendSettings.ofToml? (t : Toml) : Option BackendSettings := do
  let d : BackendSettings := {}
  match ← t.fields? ["api_base", "api_key_env", "timeout_secs"] with
  | [base, key, timeout] =>
    some ⟨← textOr d.apiBase base, ← textOr d.apiKeyEnv key, ← natOr d.timeoutSecs timeout⟩
  | _ => none

/-- The section that a value describes. -/
def EmbeddingSettings.ofToml? (t : Toml) : Option EmbeddingSettings := do
  let d : EmbeddingSettings := {}
  match ← t.fields? ["model", "batch_size", "rate_limit_pause_secs"] with
  | [model, size, pause] =>
    some ⟨← textOr d.model model, ← natOr d.batchSize size, ← natOr d.rateLimitPauseSecs pause⟩
  | _ => none

/-- The section that a value describes. -/
def GenerationSettings.ofToml? (t : Toml) : Option GenerationSettings := do
  let d : GenerationSettings := {}
  match ← t.fields? ["model", "temperature", "max_output_tokens"] with
  | [model, temperature, tokens] =>
    some
      ⟨← textOr d.model model, ← fieldOr d.temperature single? temperature,
        ← fieldOr d.maxOutputTokens (nat? Text.halfWordBound) tokens⟩
  | _ => none

/-- The section that a value describes. -/
def ChunkingSettings.ofToml? (t : Toml) : Option ChunkingSettings := do
  let d : ChunkingSettings := {}
  match ← t.fields? ["docs_max_chars", "code_max_chars", "overlap_chars", "min_chunk_chars",
      "min_fragment_chars"] with
  | [docs, code, overlap, chunk, fragment] =>
    some
      ⟨← natOr d.docsMaxChars docs, ← natOr d.codeMaxChars code, ← natOr d.overlapChars overlap,
        ← natOr d.minChunkChars chunk, ← natOr d.minFragmentChars fragment⟩
  | _ => none

/-- The section that a value describes. -/
def RetrievalSettings.ofToml? (t : Toml) : Option RetrievalSettings := do
  let d : RetrievalSettings := {}
  match ← t.fields? ["top_k", "min_score"] with
  | [topK, minScore] => some ⟨← natOr d.topK topK, ← fieldOr d.minScore single? minScore⟩
  | _ => none

/-- The section that a value describes. -/
def LimitSettings.ofToml? (t : Toml) : Option LimitSettings := do
  let d : LimitSettings := {}
  match ← t.fields? ["max_input_chars", "max_questions_per_session", "history_window"] with
  | [input, questions, window] =>
    some
      ⟨← natOr d.maxInputChars input, ← natOr d.maxQuestionsPerSession questions,
        ← natOr d.historyWindow window⟩
  | _ => none

/-- The document that a value describes; both fields are needed. -/
def DesignDoc.ofToml? (t : Toml) : Option DesignDoc := do
  match ← t.fields? ["path", "label"] with
  | [path, label] => some ⟨← (← path).text?, ← (← label).text?⟩
  | _ => none

/-- The section that a value describes. -/
def SourceSettings.ofToml? (t : Toml) : Option SourceSettings := do
  let d : SourceSettings := {}
  match ← t.fields? ["html_dir", "site_base_url", "detail_pages", "knowledge_page", "knowledge_block",
      "code_dir", "design_docs"] with
  | [html, site, pages, page, block, code, docs] =>
    some
      ⟨← optionOr d.htmlDir html, ← textOr d.siteBaseUrl site, ← fieldOr d.detailPages texts? pages,
        ← textOr d.knowledgePage page, ← textOr d.knowledgeBlock block, ← textOr d.codeDir code,
        ← fieldOr d.designDocs (fun t => do (← t.elements?).mapM DesignDoc.ofToml?) docs⟩
  | _ => none

/-- The section that a value describes. -/
def IndexSettings.ofToml? (t : Toml) : Option IndexSettings := do
  let d : IndexSettings := {}
  match ← t.fields? ["dir"] with
  | [dir] => some ⟨← textOr d.dir dir⟩
  | _ => none

/-- The section that a value describes. -/
def PromptSettings.ofToml? (t : Toml) : Option PromptSettings := do
  let d : PromptSettings := {}
  match ← t.fields? ["custom_dir", "variables"] with
  | [dir, bindings] =>
    some ⟨← optionOr d.customDir dir, ← fieldOr d.bindings textTable? bindings⟩
  | _ => none

namespace Settings

/-- The settings that a value describes. -/
def ofToml? (t : Toml) : Option Settings := do
  match ← t.fields? ["general", "backend", "embedding", "generation", "chunking", "retrieval",
      "limits", "sources", "index", "prompts"] with
  | [general, backend, embedding, generation, chunking, retrieval, limits, sources, index, prompts] =>
    some
      ⟨← fieldOr {} GeneralSettings.ofToml? general, ← fieldOr {} BackendSettings.ofToml? backend,
        ← fieldOr {} EmbeddingSettings.ofToml? embedding,
        ← fieldOr {} GenerationSettings.ofToml? generation,
        ← fieldOr {} ChunkingSettings.ofToml? chunking,
        ← fieldOr {} RetrievalSettings.ofToml? retrieval, ← fieldOr {} LimitSettings.ofToml? limits,
        ← fieldOr {} SourceSettings.ofToml? sources, ← fieldOr {} IndexSettings.ofToml? index,
        ← fieldOr {} PromptSettings.ofToml? prompts⟩
  | _ => none

/-- The settings of a configuration text. -/
def parse (text : String) : Except Error Settings :=
  match (Toml.parse? text).bind ofToml? with
  | some s => .ok s
  | none => .error (.toml "not a valid configuration")

/-- The settings of a configuration file; the defaults if there is no such file. -/
def load (d : Disk) (path : String) : Except Error Settings := do
  if d.exists? path then parse (← (d.readText path).mapError .file) else return {}

/-! ## Writing -/

/-- The settings as a value, with every setting that is set. -/
def toToml (s : Settings) : List (String × Toml) :=
  let text (key : String) (value : String) : String × Toml := (key, .string value)
  let nat (key : String) (value : Nat) : String × Toml := (key, .integer value)
  let single (key : String) (value : Single) : String × Toml := (key, .float (Double.ofSingle value))
  let option (key : String) (value : Option String) : List (String × Toml) :=
    (value.map (text key)).toList
  let doc (d : DesignDoc) : Toml := .table [text "path" d.path, text "label" d.label]
  [("general", .table [text "log_level" s.general.logLevel]),
   ("backend", .table
     [text "api_base" s.backend.apiBase, text "api_key_env" s.backend.apiKeyEnv,
      nat "timeout_secs" s.backend.timeoutSecs]),
   ("embedding", .table
     [text "model" s.embedding.model, nat "batch_size" s.embedding.batchSize,
      nat "rate_limit_pause_secs" s.embedding.rateLimitPauseSecs]),
   ("generation", .table
     [text "model" s.generation.model, single "temperature" s.generation.temperature,
      nat "max_output_tokens" s.generation.maxOutputTokens]),
   ("chunking", .table
     [nat "docs_max_chars" s.chunking.docsMaxChars, nat "code_max_chars" s.chunking.codeMaxChars,
      nat "overlap_chars" s.chunking.overlapChars, nat "min_chunk_chars" s.chunking.minChunkChars,
      nat "min_fragment_chars" s.chunking.minFragmentChars]),
   ("retrieval", .table [nat "top_k" s.retrieval.topK, single "min_score" s.retrieval.minScore]),
   ("limits", .table
     [nat "max_input_chars" s.limits.maxInputChars,
      nat "max_questions_per_session" s.limits.maxQuestionsPerSession,
      nat "history_window" s.limits.historyWindow]),
   ("sources", .table
     (option "html_dir" s.sources.htmlDir ++
       [text "site_base_url" s.sources.siteBaseUrl,
        ("detail_pages", .array (s.sources.detailPages.map .string)),
        text "knowledge_page" s.sources.knowledgePage, text "knowledge_block" s.sources.knowledgeBlock,
        text "code_dir" s.sources.codeDir, ("design_docs", .array (s.sources.designDocs.map doc))])),
   ("index", .table [text "dir" s.index.dir]),
   ("prompts", .table
     (option "custom_dir" s.prompts.customDir ++
       [("variables", .table (s.prompts.bindings.map fun (key, value) => text key value))]))]

/-- The settings as a configuration text. -/
def toText (s : Settings) : String := Toml.document s.toToml

/-! ## What follows from them -/

/-- The filter of log messages; each step of `verbose` raises the level beyond the configured one. -/
def logFilter (s : Settings) (verbose : Nat) : String :=
  let level :=
    match verbose with
    | 0 => s.general.logLevel
    | 1 => "info"
    | 2 => "debug"
    | _ => "trace"
  "lore=" ++ level

/-- The directory of the index. -/
def indexDir (s : Settings) (e : Environment) : String := e.expand s.index.dir

/-- The directory of the project. -/
def codeDir (s : Settings) (e : Environment) : String := e.expand s.sources.codeDir

/-- The pause between embedding requests, in milliseconds. -/
def pauseMillis (s : Settings) : Nat := s.embedding.rateLimitPauseSecs * 1000

/-- The credential of the backend. -/
def apiKey? (s : Settings) (e : Environment) : Option String := e.credential? s.backend.apiKeyEnv

end Settings

end Grounded
