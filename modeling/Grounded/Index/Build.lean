import Grounded.Backend.Batch
import Grounded.Backend.Completion
import Grounded.Index.Store
import Grounded.Source.Ingestor

/-!
# Building an index

The chunks of the three sources make up the corpus. They are embedded in one fixed order, documentation
first, then code, then design documents, and stored with their matrix. Nothing is written before all of
that has gone well, and a corpus without chunks is never stored.
-/

namespace Grounded

/-- Where the documentation pages come from. -/
inductive SiteSource where
  | dir (path : String)
  /-- The site at its address. -/
  | fetch
  | skip
deriving DecidableEq, Repr

/-- The chunks of each source. -/
structure Corpus where
  docs : List Chunk
  code : List Chunk
  design : List Chunk
deriving DecidableEq, Repr

namespace Corpus

/-- All chunks, in the order of the index. -/
def chunks (c : Corpus) : List Chunk := c.docs ++ c.code ++ c.design

/-- The number of chunks. -/
def size (c : Corpus) : Nat := c.docs.length + c.code.length + c.design.length

/-- Whether there are no chunks. -/
def isEmpty (c : Corpus) : Bool := c.size == 0

theorem length_chunks (c : Corpus) : c.chunks.length = c.size := by
  simp [chunks, size, Nat.add_assoc]

end Corpus

/-- What is told of an index that was built. -/
structure IndexSummary where
  docs : Nat
  code : Nat
  design : Nat
  rows : Nat
  dims : Nat
  paths : IndexPaths
deriving DecidableEq, Repr

/-- What the work needs besides files: the web, the clock, and time to pass. -/
structure Services (m : Type → Type) where
  transport : Transport m
  /-- Lets a number of milliseconds pass. -/
  pause : Nat → m Unit
  now : m Instant

/-- What builds an index. -/
structure IndexBuilder (m : Type → Type) where
  settings : Settings
  embedder : Embedder m
  services : Services m

namespace IndexBuilder

variable {m : Type → Type} [Monad m]

/-- The builder with the embedder that settings describe; there is none without a credential. -/
def ofSettings (s : Settings) (env : Environment) (services : Services m) :
    Except Error (IndexBuilder m) :=
  match s.apiKey? env with
  | none => .error (.config (s.backend.apiKeyEnv ++ " is not set"))
  | some key =>
    let client := BackendClient.ofSettings s.backend key services.transport
    .ok ⟨s, client.embedder s.embedding.model, services⟩

/-- The ingestor of the settings. -/
def ingestor (b : IndexBuilder m) : Ingestor :=
  Ingestor.ofSettings b.settings.chunking b.settings.sources DomainTable.standard

/-- The pace of the settings. -/
def batching (b : IndexBuilder m) : Batching := ⟨b.settings.embedding.batchSize, b.settings.pauseMillis⟩

/-- The chunks of the documentation pages. A directory that does not exist has none. -/
def collectDocs (b : IndexBuilder m) (d : Disk) : SiteSource → m (List Chunk)
  | .dir path => return if d.isDir path then b.ingestor.loadSite d path else []
  | .fetch => b.ingestor.fetchSite b.services.transport
  | .skip => return []

/-- The chunks of all sources. -/
def collect (b : IndexBuilder m) (d : Disk) (site : SiteSource) (codeDir : String) : m Corpus := do
  let docs ← b.collectDocs d site
  return ⟨docs, b.ingestor.loadCode d codeDir, b.ingestor.loadDesignDocs d codeDir⟩

/-- The index of chunks. -/
def embed (b : IndexBuilder m) (chunks : List Chunk) : ExceptT Error m KnowledgeIndex := do
  let matrix ← b.batching.build b.embedder b.services.pause (chunks.map (·.text))
  ExceptT.mk (pure ((KnowledgeIndex.pair chunks matrix).mapError fun e => .indexCorrupt e.message))

/-- The error of a corpus without chunks. -/
def noChunks : Error := .ingest "No chunks produced; check the source paths"

/-- Collects and embeds: the corpus with its index. -/
def prepare (b : IndexBuilder m) (d : Disk) (site : SiteSource) (codeDir : String) :
    ExceptT Error m (Corpus × KnowledgeIndex) := do
  let corpus ← b.collect d site codeDir
  if corpus.isEmpty then throw noChunks
  else return (corpus, ← b.embed corpus.chunks)

/-- The summary of an index of a corpus. -/
def summary (corpus : Corpus) (index : KnowledgeIndex) (paths : IndexPaths) : IndexSummary :=
  ⟨corpus.docs.length, corpus.code.length, corpus.design.length, index.matrix.rows,
    index.matrix.dims, paths⟩

/--
Builds an index and stores it. The result comes with the file system as it is then, also if the work
fails.
-/
def build (b : IndexBuilder m) (d : Disk) (site : SiteSource) (codeDir outputDir : String) :
    m (Except Error IndexSummary × Disk) := do
  match ← (b.prepare d site codeDir).run with
  | .error e => return (.error e, d)
  | .ok (corpus, index) =>
    let manifest := index.manifest b.embedder.model (← b.services.now)
    let (stored, d) := (index.save outputDir manifest).run.run d
    return (stored.map (summary corpus index), d)

end IndexBuilder

end Grounded
