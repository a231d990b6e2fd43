import Grounded.Index.Build
import Grounded.Proofs.Running

/-!
# The kinds of collected chunks

Each source makes chunks of its own kind and of no other. So the chunks of a corpus can be counted by
kind without knowing which source they came from, and a kind that is counted tells the source.
-/

namespace Grounded

/-- All of the chunks are of the kind. -/
def OfKind (kind : ChunkKind) (chunks : List Chunk) : Prop := ∀ c ∈ chunks, c.kind = kind

namespace OfKind

theorem nil (kind : ChunkKind) : OfKind kind [] := fun _ hc => absurd hc List.not_mem_nil

theorem append {kind : ChunkKind} {cs ds : List Chunk} (hc : OfKind kind cs) (hd : OfKind kind ds) :
    OfKind kind (cs ++ ds) := List.forall_mem_append.mpr ⟨hc, hd⟩

theorem flatten {kind : ChunkKind} {lists : List (List Chunk)} (h : ∀ cs ∈ lists, OfKind kind cs) :
    OfKind kind lists.flatten := by
  intro c hc
  obtain ⟨cs, hcs, hmem⟩ := List.mem_flatten.mp hc
  exact h cs hcs c hmem

theorem flatMap {α : Type} {kind : ChunkKind} {xs : List α} {f : α → List Chunk}
    (h : ∀ x ∈ xs, OfKind kind (f x)) : OfKind kind (xs.flatMap f) := by
  intro c hc
  obtain ⟨x, hx, hmem⟩ := List.mem_flatMap.mp hc
  exact h x hx c hmem

/-- Counting the kind counts them all. -/
theorem countKind_self {kind : ChunkKind} {chunks : List Chunk} (h : OfKind kind chunks) :
    Chunk.countKind kind chunks = chunks.length := by
  rw [Chunk.countKind, List.countP_eq_length]
  intro c hc
  rw [h c hc]
  exact beq_self_eq_true kind

/-- Counting another kind counts none. -/
theorem countKind_of_ne {kind other : ChunkKind} {chunks : List Chunk} (h : OfKind kind chunks)
    (hne : kind ≠ other) : Chunk.countKind other chunks = 0 := by
  rw [Chunk.countKind, List.countP_eq_zero]
  intro c hc
  rw [h c hc, beq_iff_eq]
  exact hne

end OfKind

/-! ## The extractors -/

theorem ofKind_chunkSections (g : Segmenter) (minChars : Nat) (source : String) (kind : ChunkKind)
    (parts : List Section) : OfKind kind (chunkSections g minChars source kind parts) := by
  refine OfKind.flatMap ?_
  intro s _ c hc
  obtain ⟨piece, _, rfl⟩ := List.mem_map.mp hc
  rfl

theorem Page.ofKind_knowledgeChunks (minChars : Nat) (page name source : String) :
    OfKind .docs (knowledgeChunks minChars page name source) := by
  intro c hc
  rw [knowledgeChunks] at hc
  cases hb : block? name.toList page.toList with
  | none => rw [hb] at hc; cases hc
  | some content =>
      rw [hb] at hc
      obtain ⟨entry, _, hentry⟩ := List.mem_filterMap.mp hc
      rw [entryChunk?] at hentry
      split at hentry
      · injection hentry with hentry
        rw [← hentry]
      · cases hentry

theorem CodeExtractor.ofKind_load (e : CodeExtractor) (d : Disk) (codeDir : String) :
    OfKind .code (e.load d codeDir) := by
  rw [load]
  cases d.get (Path.join codeDir cratesDir) with
  | error err => exact OfKind.nil .code
  | ok t =>
      cases t with
      | file content => exact OfKind.nil .code
      | dir entries =>
          refine OfKind.flatMap ?_
          -- a domain of items has chunks of code, and one without items has none
          rintro ⟨domain, items⟩ _ c hc
          cases items with
          | nil => cases hc
          | cons first rest =>
              obtain ⟨piece, _, rfl⟩ := List.mem_map.mp hc
              rfl

namespace Ingestor

theorem ofKind_chunksOr {kind : ChunkKind} {chunks : String → List Chunk}
    (h : ∀ text, OfKind kind (chunks text)) (content : Option String) :
    OfKind kind (chunksOr chunks content) := by
  cases content with
  | none => exact OfKind.nil kind
  | some text => exact h text

/-- However the pages are read, they make documentation. -/
theorem yields_siteChunks {m : Type → Type} [Monad m] [LawfulMonad m] (i : Ingestor)
    (read : String → m (Option String)) : Yields (OfKind .docs) (i.siteChunks read) := by
  have hpage : ∀ page, Yields (OfKind .docs) (do
      return chunksOr (i.pageChunks page) (← read page) : m (List Chunk)) := by
    intro page
    refine (yields_true (read page)).bind ?_
    intro content _
    exact yields_pure (ofKind_chunksOr (fun _ => ofKind_chunkSections _ _ _ _ _) content)
  refine (yields_mapM hpage _).bind ?_
  intro pages hpages
  refine (yields_true (read i.sources.knowledgePage)).bind ?_
  intro content _
  exact yields_pure ((OfKind.flatten hpages).append
    (ofKind_chunksOr (fun _ => Page.ofKind_knowledgeChunks _ _ _ _) content))

theorem ofKind_loadSite (i : Ingestor) (d : Disk) (dir : String) :
    OfKind .docs (i.loadSite d dir) :=
  (yields_siteChunks (m := Id) i fun page => pure (readIn d dir page)).of_id

theorem ofKind_loadDesignDocs (i : Ingestor) (d : Disk) (codeDir : String) :
    OfKind .design (i.loadDesignDocs d codeDir) := by
  refine OfKind.flatMap ?_
  intro doc _
  exact ofKind_chunksOr (fun _ => ofKind_chunkSections _ _ _ _ _) _

end Ingestor

/-! ## The corpus -/

namespace Corpus

/-- Each source of the corpus has chunks of its own kind. -/
structure Sorted (c : Corpus) : Prop where
  docs : OfKind .docs c.docs
  code : OfKind .code c.code
  design : OfKind .design c.design

theorem countKind_chunks (c : Corpus) (kind : ChunkKind) : Chunk.countKind kind c.chunks
    = Chunk.countKind kind c.docs + Chunk.countKind kind c.code + Chunk.countKind kind c.design := by
  rw [chunks, Chunk.countKind, List.countP_append, List.countP_append]
  rfl

/-- **Counting a kind counts its source.** -/
theorem Sorted.countKind {c : Corpus} (h : c.Sorted) :
    Chunk.countKind .docs c.chunks = c.docs.length ∧
    Chunk.countKind .code c.chunks = c.code.length ∧
    Chunk.countKind .design c.chunks = c.design.length := by
  refine ⟨?_, ?_, ?_⟩
  · rw [countKind_chunks, h.docs.countKind_self, h.code.countKind_of_ne (by decide),
      h.design.countKind_of_ne (by decide), Nat.add_zero]
  · rw [countKind_chunks, h.code.countKind_self, h.docs.countKind_of_ne (by decide),
      h.design.countKind_of_ne (by decide), Nat.zero_add, Nat.add_zero]
  · rw [countKind_chunks, h.design.countKind_self, h.docs.countKind_of_ne (by decide),
      h.code.countKind_of_ne (by decide), Nat.zero_add]

end Corpus

namespace IndexBuilder

variable {m : Type → Type} [Monad m] [LawfulMonad m]

theorem yields_collectDocs (b : IndexBuilder m) (d : Disk) (site : SiteSource) :
    Yields (OfKind .docs) (b.collectDocs d site) := by
  cases site with
  | dir path =>
      rw [collectDocs]
      refine yields_pure ?_
      split
      · exact Ingestor.ofKind_loadSite _ d path
      · exact OfKind.nil .docs
  | fetch => exact Ingestor.yields_siteChunks ..
  | skip => exact yields_pure (OfKind.nil .docs)

/-- **A collected corpus is sorted,** whatever the files, the settings and the site. -/
theorem yields_collect (b : IndexBuilder m) (d : Disk) (site : SiteSource) (codeDir : String) :
    Yields Corpus.Sorted (b.collect d site codeDir) := by
  refine (b.yields_collectDocs d site).bind ?_
  intro docs hdocs
  exact yields_pure
    ⟨hdocs, CodeExtractor.ofKind_load _ d codeDir, Ingestor.ofKind_loadDesignDocs _ d codeDir⟩

end IndexBuilder

end Grounded
