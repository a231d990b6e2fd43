import Grounded.Cli.Run
import Grounded.Proofs.SaveLoad

/-!
# What a checked search has

Before a search there is a check of the credential and of the index. What the check misses is what the
loader misses (`checkIndex_of_load`), but the loader asks for more: the files have to hold a list of
chunks and a matrix with a row for each (`IsStored`). So a search that has passed the check has its
backends, and it has the index that the files hold. Files that are there and hold none pass the check as
well (`not_ready_of_checked`).
-/

namespace Grounded

namespace KnowledgeIndex

variable {d : Disk} {dir : String}

/-- The two files of a directory hold an index. -/
structure IsStored (d : Disk) (dir : String) (index : KnowledgeIndex) : Prop where
  chunks : loadChunks d (IndexPaths.inDir dir).chunks = .ok index.chunks
  matrix : loadMatrix d (IndexPaths.inDir dir).embeddings = .ok index.matrix

theorem load?_eq_some_iff {index : KnowledgeIndex} :
    load? d dir = some index ↔ IsStored d dir index := by
  have hsome : load? d dir = some index ↔ load d dir = .ok index := by
    rw [load?]
    cases load d dir with
    | error e =>
        constructor
        · intro h
          cases h
        · intro h
          cases h
    | ok i => exact ⟨fun h => congrArg _ (Option.some.inj h), fun h => congrArg _ (Except.ok.inj h)⟩
  rw [hsome, load_eq_ok_iff]
  exact ⟨fun h => ⟨h.1, h.2⟩, fun h => ⟨h.chunks, h.matrix⟩⟩

/-! ## Missing files -/

theorem loadChunks_ne_missing (path missing : String) :
    loadChunks d path ≠ .error (.indexMissing missing) := by
  intro h
  rw [loadChunks] at h
  cases htext : d.readText path with
  | error e => rw [htext] at h; cases h
  | ok text =>
      rw [htext] at h
      simp only [mapError_ok, bind, Except.bind] at h
      split at h
      · cases h
      · cases h

theorem loadMatrix_ne_missing (path missing : String) :
    loadMatrix d path ≠ .error (.indexMissing missing) := by
  intro h
  rw [loadMatrix] at h
  cases hbytes : d.read path with
  | error e => rw [hbytes] at h; cases h
  | ok bytes =>
      rw [hbytes] at h
      simp only [mapError_ok, bind, Except.bind] at h
      cases hdecode : Npy.decode bytes.toList with
      | error fault =>
          rw [hdecode] at h
          cases fault <;> cases h
      | ok m => rw [hdecode] at h; cases h

/-- The first file of an index that is not there. -/
def missing? (d : Disk) (dir : String) : Option String :=
  (Cli.indexFiles dir).find? fun path => !d.exists? path

theorem missing?_eq_none_iff : missing? d dir = none ↔
    d.exists? (IndexPaths.inDir dir).chunks = true ∧
      d.exists? (IndexPaths.inDir dir).embeddings = true := by
  rw [missing?, Cli.indexFiles, List.find?_eq_none, List.forall_mem_cons, List.forall_mem_singleton,
    Bool.not_eq_true', Bool.not_eq_false, Bool.not_eq_true', Bool.not_eq_false]

theorem load_of_missing {path : String} (h : missing? d dir = some path) :
    load d dir = .error (.indexMissing path) := by
  rw [missing?, Cli.indexFiles] at h
  rw [load]
  dsimp only
  cases hchunks : d.exists? (IndexPaths.inDir dir).chunks with
  | false =>
      rw [List.find?_cons_of_pos (by rw [hchunks]; rfl)] at h
      cases h
      rfl
  | true =>
      rw [List.find?_cons_of_neg (by rw [hchunks]; decide)] at h
      cases hmatrix : d.exists? (IndexPaths.inDir dir).embeddings with
      | false =>
          rw [List.find?_cons_of_pos (by rw [hmatrix]; rfl)] at h
          cases h
          rfl
      | true =>
          rw [List.find?_cons_of_neg (by rw [hmatrix]; decide)] at h
          cases h

/-- Whatever else is wrong with files that are there, they are not said to be missing. -/
theorem load_ne_missing (h : missing? d dir = none) (path : String) :
    load d dir ≠ .error (.indexMissing path) := by
  obtain ⟨hchunks, hmatrix⟩ := missing?_eq_none_iff.mp h
  intro he
  rw [load] at he
  simp only [hchunks, hmatrix, Bool.not_true, Bool.false_eq_true, if_false, bind, Except.bind] at he
  cases hc : loadChunks d (IndexPaths.inDir dir).chunks with
  | error e =>
      rw [hc] at he
      cases he
      exact loadChunks_ne_missing _ _ hc
  | ok chunks =>
      rw [hc] at he
      cases hm : loadMatrix d (IndexPaths.inDir dir).embeddings with
      | error e =>
          rw [hm] at he
          cases he
          exact loadMatrix_ne_missing _ _ hm
      | ok m =>
          rw [hm] at he
          dsimp only at he
          cases hpair : pair chunks m with
          | error e => rw [hpair] at he; cases he
          | ok i => rw [hpair] at he; cases he

end KnowledgeIndex

namespace Cli

open KnowledgeIndex

variable {s : Settings} {env : Environment} {d : Disk}

/-- **The check and the loader miss the same file.** -/
theorem checkIndex_of_load {path : String} (h : load d (s.indexDir env) = .error (.indexMissing path)) :
    checkIndex s env d = .error (.indexMissing (path ++ ". " ++ buildHint)) := by
  unfold checkIndex
  cases hmissing : missing? d (s.indexDir env) with
  | none => exact absurd h (load_ne_missing hmissing path)
  | some first =>
      have hsame := (load_of_missing hmissing).symm.trans h
      have hpath := Error.indexMissing.inj (Except.error.inj hsame)
      rw [missing?] at hmissing
      rw [hmissing, hpath]

theorem of_preflight_search (h : preflight .search s env d = .ok ()) :
    (s.apiKey? env).isSome = true ∧ checkIndex s env d = .ok () := by
  rw [preflight, checkCredential] at h
  by_cases hkey : (s.apiKey? env).isSome = true
  · rw [if_pos hkey] at h
    exact ⟨hkey, h⟩
  · rw [if_neg hkey] at h
    cases h

/-! ## The engine of the settings -/

section Search

variable {m : Type → Type} [Monad m]

/-- An engine is that of the settings, with the index that could be loaded. -/
theorem of_ofSettings {transport : Transport m} {e : Engine m}
    (h : Engine.ofSettings s d env transport = .ok e) :
    e.backends = (s.apiKey? env).map (fun key =>
        (BackendClient.ofSettings s.backend key transport).backends s) ∧
      e.index = load? d (s.indexDir env) ∧ e.retrieval = s.retrieval := by
  rw [Engine.ofSettings] at h
  cases hprompts : Prompts.load d env s.prompts.customDir s.prompts.bindings with
  | error cause => rw [hprompts] at h; cases h
  | ok prompts =>
      rw [hprompts] at h
      cases h
      exact ⟨rfl, rfl, rfl⟩

/-- The report of a search for what is found with the embedding of the query. -/
def searchReport (embedder : Embedder m) (query : String) (found : List Single → List Passage) :
    m Report := do
  match ← (embedder.embed query).run with
  | .error cause => return told "Search failed: " cause
  | .ok vector => return foundReport (found vector)

variable [LawfulMonad m]

theorem runSearch_eq {w : World m} {e : Engine m} {b : Backends m}
    (hchecked : preflight .search s w.env w.disk = .ok ()) (hengine : engine w s = .ok e)
    (hb : e.backends = some b) (query : String) (limit : Option Nat) (minScore : Option Single) :
    runSearch w s query limit minScore = searchReport b.embedder query fun vector =>
      retrieve e.index vector (limit.getD e.retrieval.topK)
        (minScore.getD e.retrieval.minScore) := by
  rw [runSearch, hchecked]
  dsimp only
  rw [hengine]
  dsimp only
  rw [Engine.search, hb, searchReport]
  dsimp only
  rw [ExceptT.run_bind, bind_assoc]
  refine bind_congr fun answer => ?_
  cases answer with
  | error cause => exact pure_bind _ _
  | ok vector => exact pure_bind _ _

/--
**What a checked search has.** When the check of a search has passed and there is an engine, it has its
backends, and no file of the index was missing. The engine has an index if the two files hold one, and it
is that one: then the search tells what is found in it, and nothing is found only if nothing in it is near
the query. If the files are there but hold no index, then the engine has none.
-/
theorem runSearch_of_checked (w : World m) (s : Settings) (e : Engine m)
    (hchecked : preflight .search s w.env w.disk = .ok ()) (hengine : engine w s = .ok e) :
    e.isConfigured = true ∧
      (∀ path, load w.disk (s.indexDir w.env) ≠ .error (.indexMissing path)) ∧
      (∀ index, e.index = some index ↔ IsStored w.disk (s.indexDir w.env) index) ∧
      ∃ b : Backends m, e.backends = some b ∧
        ∀ index, IsStored w.disk (s.indexDir w.env) index → ∀ query limit minScore,
          runSearch w s query limit minScore = searchReport b.embedder query fun vector =>
            retrieve (some index) vector (limit.getD s.retrieval.topK)
              (minScore.getD s.retrieval.minScore) := by
  obtain ⟨hkey, hindex⟩ := of_preflight_search hchecked
  obtain ⟨hbackends, hloaded, hretrieval⟩ := of_ofSettings hengine
  have hstored : ∀ index, e.index = some index ↔ IsStored w.disk (s.indexDir w.env) index := by
    intro index
    rw [hloaded]
    exact load?_eq_some_iff
  obtain ⟨key, hkey⟩ := Option.isSome_iff_exists.mp hkey
  rw [hkey, Option.map_some] at hbackends
  refine ⟨?_, ?_, hstored, _, hbackends, ?_⟩
  · rw [Engine.isConfigured, hbackends]
    rfl
  · intro path hmissing
    rw [checkIndex_of_load hmissing] at hindex
    cases hindex
  · intro index hfiles query limit minScore
    rw [runSearch_eq hchecked hengine hbackends, (hstored index).mpr hfiles, hretrieval]

end Search

/-! ## Files that fit together, and files that do not -/

/-- One chunk. -/
def gravity : List Chunk := [⟨"Action Gravity throttles actions.", "Page", "Overview", .docs⟩]

/-- A matrix with a row for it. -/
def oneRow : Matrix := ⟨1, 1, #[⟨0x3F000000⟩], rfl⟩

/-- The index of the one chunk. -/
def gravityIndex : KnowledgeIndex := ⟨gravity, oneRow, rfl⟩

/-- A matrix with one row more than there are chunks. -/
def twoRows : Matrix := ⟨2, 1, #[⟨0x3F800000⟩, ⟨0x3F800000⟩], rfl⟩

/-- A world with a credential, the one chunk, and a matrix that fits or does not. -/
def shelf (m : Matrix) : World Id where
  env := ⟨[("MISTRAL_API_KEY", "key")]⟩
  disk := ⟨.dir [("index", .dir
    [("chunks.json", .file (bytesOf ((Chunk.listToJson gravity).pretty 0))),
     ("embeddings.npy", .file ⟨(Npy.written m).toArray⟩)])], []⟩
  services := ⟨fun _ => .error "", fun _ => (), ⟨0, 0⟩⟩

/-- Settings with the index of the shelf. -/
def shelfSettings : Settings := { index := ⟨"index"⟩ }

theorem loadChunks_shelf (m : Matrix) :
    loadChunks (shelf m).disk (IndexPaths.inDir "index").chunks = .ok gravity :=
  loadChunks_of_get rfl

theorem loadMatrix_shelf {m : Matrix} (h : m.Addressable) :
    loadMatrix (shelf m).disk (IndexPaths.inDir "index").embeddings = .ok m :=
  loadMatrix_of_get rfl (Npy.decode_written h)

theorem runSearch_of_checked_shelf :
    preflight .search shelfSettings (shelf oneRow).env (shelf oneRow).disk
        = .ok () ∧
      ∃ e, engine (shelf oneRow) shelfSettings = .ok e ∧ e.index = some gravityIndex := by
  have hchecked : preflight .search shelfSettings (shelf oneRow).env
      (shelf oneRow).disk = .ok () := rfl
  have hsize : oneRow.Addressable := ⟨by decide, by decide, by decide⟩
  refine ⟨hchecked, _, rfl, ?_⟩
  obtain ⟨_, _, hstored, _⟩ :=
    runSearch_of_checked (shelf oneRow) shelfSettings _ hchecked rfl
  exact (hstored gravityIndex).mpr ⟨loadChunks_shelf _, loadMatrix_shelf hsize⟩

/-- Files that are there but do not fit together pass the check, and the engine has no index. -/
theorem not_ready_of_checked :
    ¬ ∀ (w : World Id) (s : Settings) (e : Engine Id),
      preflight .search s w.env w.disk = .ok () → engine w s = .ok e →
      e.isConfigured = true ∧ e.index.isSome = true := by
  intro h
  have hsize : twoRows.Addressable := ⟨by decide, by decide, by decide⟩
  obtain ⟨e, hengine⟩ : ∃ e, engine (shelf twoRows) shelfSettings = .ok e := ⟨_, rfl⟩
  obtain ⟨_, hloaded⟩ := h (shelf twoRows) shelfSettings e rfl hengine
  obtain ⟨index, hindex⟩ := Option.isSome_iff_exists.mp hloaded
  rw [(of_ofSettings hengine).2.1] at hindex
  have hstored := load?_eq_some_iff.mp hindex
  -- the index would have one chunk and two rows
  have hchunks := hstored.chunks.symm.trans (loadChunks_shelf twoRows)
  have hmatrix := hstored.matrix.symm.trans (loadMatrix_shelf hsize)
  have haligned := index.aligned
  rw [Except.ok.inj hchunks, Except.ok.inj hmatrix] at haligned
  exact absurd haligned (by decide)

end Cli

end Grounded
