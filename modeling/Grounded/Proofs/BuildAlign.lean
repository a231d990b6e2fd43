import Grounded.Index.Build
import Grounded.Proofs.BatchAlign
import Grounded.Proofs.SaveLoad
import Grounded.Proofs.SourceKind

/-!
# Indexes that were built

A build collects chunks, sends their texts to the embedder, pairs the vectors with the chunks and stores
both. Its result is traced back here from the stored files: what is loaded from them has the collected
chunks in their order, each with the vector that came back for its text, and everything that is counted
on the way agrees.
-/

namespace Grounded

/-- The counts of a manifest, in the order of the names. -/
theorem Manifest.countKinds_eq (chunks : List Chunk) : countKinds chunks
    = [("code", Chunk.countKind .code chunks), ("design", Chunk.countKind .design chunks),
       ("docs", Chunk.countKind .docs chunks)] := by
  have hfirst : "code" < "docs" := by decide
  have hafter : ¬ "design" < "code" := by decide
  have hother : "design" ≠ "code" := by decide
  have hbefore : "design" < "docs" := by decide
  simp only [countKinds, ChunkKind.all, List.foldl_cons, List.foldl_nil, ChunkKind.name, setCount,
    if_pos hfirst, if_neg hafter, if_neg hother, if_pos hbefore]

namespace IndexBuilder

open KnowledgeIndex

variable {σ : Type} {b : IndexBuilder (StateM σ)} {d : Disk} {site : SiteSource} {codeDir : String}

/-! ## The steps of a build -/

theorem of_embed {chunks : List Chunk} {s s' : σ} {index : KnowledgeIndex}
    (h : (b.embed chunks).run.run s = (.ok index, s')) : index.chunks = chunks ∧
      (b.batching.build b.embedder b.services.pause (chunks.map (·.text))).run.run s
        = (.ok index.matrix, s') := by
  obtain ⟨matrix, s₁, hbuild, hpair⟩ := of_run_bind h
  cases hp : pair chunks matrix with
  | error e => rw [hp] at hpair; cases hpair
  | ok found =>
      rw [hp] at hpair
      cases hpair
      obtain ⟨hchunks, hmatrix⟩ := of_pair hp
      rw [hmatrix]
      exact ⟨hchunks, hbuild⟩

theorem of_prepare {s s' : σ} {corpus : Corpus} {index : KnowledgeIndex}
    (h : (b.prepare d site codeDir).run.run s = (.ok (corpus, index), s')) :
    ∃ s₀, (b.collect d site codeDir).run s = (corpus, s₀) ∧
      (b.embed corpus.chunks).run.run s₀ = (.ok index, s') := by
  obtain ⟨found, s₀, hcollect, hrest⟩ := of_run_bind h
  -- a corpus without chunks is refused
  split at hrest
  · cases hrest
  · obtain ⟨embedded, s₁, hembed, hlast⟩ := of_run_bind hrest
    cases hlast
    cases hcollect
    exact ⟨_, rfl, hembed⟩

/-- What a build does with what was prepared. -/
def finish (b : IndexBuilder (StateM σ)) (d : Disk) (outputDir : String) :
    Except Error (Corpus × KnowledgeIndex) → StateM σ (Except Error IndexSummary × Disk)
  | .error e => return (.error e, d)
  | .ok (corpus, index) => do
    let manifest := index.manifest b.embedder.model (← b.services.now)
    let (stored, d) := (index.save outputDir manifest).run.run d
    return (stored.map (summary corpus index), d)

/-- A build prepares the index, asks for the time, and saves. -/
theorem run_build (b : IndexBuilder (StateM σ)) (d : Disk) (site : SiteSource)
    (codeDir outputDir : String) (s : σ) : (b.build d site codeDir outputDir).run s =
      match (b.prepare d site codeDir).run.run s with
      | (.error e, s₁) => ((.error e, d), s₁)
      | (.ok (corpus, index), s₁) =>
        match b.services.now.run s₁ with
        | (builtAt, s₂) =>
          match (index.save outputDir (index.manifest b.embedder.model builtAt)).run.run d with
          | (stored, d') => ((stored.map (summary corpus index), d'), s₂) := by
  -- what follows depends on the result of the preparation alone
  have h : (b.build d site codeDir outputDir).run s
      = (b.finish d outputDir ((b.prepare d site codeDir).run.run s).1).run
          ((b.prepare d site codeDir).run.run s).2 := rfl
  rw [h]
  cases (b.prepare d site codeDir).run.run s with
  | mk r s₁ =>
      cases r with
      | error e => rfl
      | ok prepared =>
          obtain ⟨corpus, index⟩ := prepared
          dsimp only
          rw [finish]
          rfl

/-- **What a build that went well has done,** from the corpus to the stored files. -/
theorem of_build {outputDir : String} {s s' : σ} {result : IndexSummary} {d' : Disk}
    (h : (b.build d site codeDir outputDir).run s = ((.ok result, d'), s')) :
    ∃ corpus index builtAt s₀ s₁, (b.collect d site codeDir).run s = (corpus, s₀) ∧
      (b.embed corpus.chunks).run.run s₀ = (.ok index, s₁) ∧
      b.services.now.run s₁ = (builtAt, s') ∧
      Stores d' outputDir index (index.manifest b.embedder.model builtAt) ∧
      result = summary corpus index (.inDir outputDir) := by
  rw [run_build] at h
  cases hp : (b.prepare d site codeDir).run.run s with
  | mk r s₁ =>
      rw [hp] at h
      cases r with
      | error e => cases h
      | ok prepared =>
          obtain ⟨corpus, index⟩ := prepared
          obtain ⟨s₀, hcollect, hembed⟩ := of_prepare hp
          dsimp only at h
          cases hn : b.services.now.run s₁ with
          | mk builtAt s₂ =>
              rw [hn] at h
              dsimp only at h
              cases hs : (index.save outputDir (index.manifest b.embedder.model builtAt)).run.run d with
              | mk stored d₁ =>
                  rw [hs] at h
                  cases stored with
                  | error e => cases h
                  | ok paths =>
                      obtain ⟨hpaths, hstores⟩ := stores_of_save hs
                      cases h
                      rw [hpaths]
                      exact ⟨corpus, index, builtAt, s₀, s₁, hcollect, hembed, hn, hstores, rfl⟩

end IndexBuilder

/-! ## What agrees in the end -/

/-- The requests were for the texts of the chunks, and their answers are the rows of the matrix. -/
structure KnowledgeIndex.AnsweredBy (i : KnowledgeIndex) (calls : List Call) : Prop where
  total : (calls.flatMap Call.answered).length = i.chunks.length
  rows : ∀ n c, i.chunks[n]? = some c →
    (calls.flatMap Call.answered)[n]? = some (c.text, i.matrix.row n)

/-- The summary, the index and the manifest count the same chunks. -/
structure IndexSummary.Counts (s : IndexSummary) (i : KnowledgeIndex) (manifest : Manifest) :
    Prop where
  docs : s.docs = Chunk.countKind .docs i.chunks
  code : s.code = Chunk.countKind .code i.chunks
  design : s.design = Chunk.countKind .design i.chunks
  byKind : manifest.byKind = [("code", s.code), ("design", s.design), ("docs", s.docs)]
  total : s.docs + s.code + s.design = s.rows
  chunkCount : manifest.chunkCount = s.rows
  loaded : i.chunks.length = s.rows

/-- The matrix has as many rows, dimensions and bytes as memory can address. -/
structure IndexSummary.Addressable (s : IndexSummary) : Prop where
  rows : s.rows < Text.wordBound
  dims : s.dims < Text.wordBound
  bytes : s.rows * s.dims * 4 < Text.wordBound

namespace IndexBuilder

open KnowledgeIndex

variable {σ : Type} {b : IndexBuilder (StateM σ)}

/-- **The rows of an embedded index are the answers for its chunks.** -/
theorem answeredBy_of_embed {chunks : List Chunk} {s s' : σ} {index : KnowledgeIndex}
    (h : (b.embed chunks).run.run s = (.ok index, s')) :
    ∃ calls, Calls b.batching b.embedder b.services.pause 1 s calls s' ∧
      calls.map (·.texts) = b.batching.batches (chunks.map (·.text)) ∧ index.AnsweredBy calls := by
  obtain ⟨rfl, hbuild⟩ := of_embed h
  obtain ⟨calls, hcalls, htexts, hanswered, hrows⟩ := Batching.calls_of_build hbuild
  refine ⟨calls, hcalls, htexts, ?_, ?_⟩
  · rw [hanswered, List.length_zip, Matrix.length_vectors, hrows, List.length_map, Nat.min_self]
  · intro n c hc
    obtain ⟨hn, _⟩ := List.getElem?_eq_some_iff.mp hc
    rw [hanswered, List.getElem?_zip_eq_some]
    refine ⟨?_, Matrix.getElem?_vectors _ ?_⟩
    · rw [List.getElem?_map, hc]
      rfl
    · rwa [← index.aligned]

/-- **The counts of a sorted corpus agree** with those of its index. -/
theorem counts_summary {corpus : Corpus} {index : KnowledgeIndex} (h : corpus.Sorted)
    (hchunks : index.chunks = corpus.chunks) (paths : IndexPaths) (model : String)
    (builtAt : Instant) :
    (summary corpus index paths).Counts index (index.manifest model builtAt) := by
  obtain ⟨hdocs, hcode, hdesign⟩ := h.countKind
  rw [← hchunks] at hdocs hcode hdesign
  have hsize : index.chunks.length = corpus.size := by rw [hchunks, corpus.length_chunks]
  refine ⟨hdocs.symm, hcode.symm, hdesign.symm, ?_, ?_, index.aligned, index.aligned⟩
  · rw [manifest, Manifest.countKinds_eq, hdocs, hcode, hdesign]
    rfl
  · exact hsize.symm.trans index.aligned

/--
**An index that was built is the index of its corpus.** Whatever the embedder, the site and the clock do,
if a build goes well, then what is loaded from the output directory has the chunks of the documentation,
of the code and of the design documents in this order; its rows are the vectors that came back for their
texts; and its summary and the stored manifest count just these chunks.
-/
theorem build_aligned (b : IndexBuilder (StateM σ)) (d d' : Disk) (site : SiteSource)
    (codeDir outputDir : String) (s s' : σ) (result : IndexSummary)
    (h : (b.build d site codeDir outputDir).run s = ((.ok result, d'), s'))
    (hsize : result.Addressable) :
    ∃ corpus index calls builtAt s₀ s₁,
      (b.collect d site codeDir).run s = (corpus, s₀) ∧
      Calls b.batching b.embedder b.services.pause 1 s₀ calls s₁ ∧
      b.services.now.run s₁ = (builtAt, s') ∧
      load d' outputDir = .ok index ∧
      index.chunks = corpus.docs ++ corpus.code ++ corpus.design ∧
      calls.map (·.texts) = b.batching.batches (index.chunks.map (·.text)) ∧
      index.AnsweredBy calls ∧
      (d'.readText (IndexPaths.inDir outputDir).manifest).toOption.bind Json.parse?
        = some (index.manifest b.embedder.model builtAt).toJson ∧
      result.Counts index (index.manifest b.embedder.model builtAt) := by
  obtain ⟨corpus, index, builtAt, s₀, s₁, hcollect, hembed, hnow, hstores, rfl⟩ := of_build h
  have hchunks := (of_embed hembed).1
  obtain ⟨calls, hcalls, htexts, hanswered⟩ := answeredBy_of_embed hembed
  have hsorted := (b.yields_collect d site codeDir).of_run hcollect
  refine ⟨corpus, index, calls, builtAt, s₀, s₁, hcollect, hcalls, hnow, ?_, hchunks, ?_, hanswered,
    ?_, counts_summary hsorted hchunks _ _ _⟩
  · exact load_of_stores hstores ⟨hsize.rows, hsize.dims, hsize.bytes⟩
  · rw [hchunks]
    exact htexts
  · rw [Disk.readText_of_get hstores.manifest, Except.toOption, Option.bind_some,
      Json.parse?_pretty (Manifest.plain_toJson _)]

/-- An embedder whose vectors are NaNs that tell the number of the request. -/
def numbering : Embedder (StateM Nat) where
  model := "numbering"
  embed _ := return []
  embedBatch texts := do
    let number ← get
    set (number + 1)
    return texts.map fun _ => [⟨0x7FC00000 + UInt32.ofNat number⟩]

/-- A builder that sends one text in each request. -/
def oneByOne : IndexBuilder (StateM Nat) where
  settings :=
    { embedding := { batchSize := 1 }
      chunking := { minChunkChars := 0 }
      sources :=
        { detailPages := [], knowledgeBlock := "K", designDocs := [⟨"design.md", "Design"⟩] } }
  embedder := numbering
  services := ⟨fun _ => return .error "", fun _ => return (), return ⟨0, 0⟩⟩

/-- A page with two entries, and a design document. -/
def twoSources : Disk :=
  ⟨.dir
    [("index.html", .file (bytesOf "const K = \x7ba: \x60one\x60, b: \x60two\x60\x7d;".toList)),
     ("design.md", .file (bytesOf "three".toList))], []⟩

theorem build_aligned_twoSources : ∃ result d' s' index,
    (oneByOne.build twoSources (.dir ".") "." "out").run 0 = ((.ok result, d'), s') ∧
      result.Addressable ∧ load d' "out" = .ok index ∧ index.chunks.length = 3 := by
  have hrun : ((oneByOne.build twoSources (.dir ".") "." "out").run 0).1.1.toOption
      = some ⟨2, 0, 1, 3, 1, IndexPaths.inDir "out"⟩ := by decide +kernel
  cases h : (oneByOne.build twoSources (.dir ".") "." "out").run 0 with
  | mk built s' =>
      obtain ⟨stored, d'⟩ := built
      rw [h] at hrun
      cases stored with
      | error e => cases hrun
      | ok result =>
          injection hrun with hresult
          have hsize : result.Addressable := by
            rw [hresult]
            exact ⟨by decide, by decide, by decide⟩
          obtain ⟨_, index, _, _, _, _, _, _, _, hload, _, _, _, _, hcounts⟩ :=
            build_aligned oneByOne twoSources d' (.dir ".") "." "out" 0 s' result h hsize
          refine ⟨result, d', s', index, rfl, hsize, hload, ?_⟩
          rw [hcounts.loaded, hresult]

end IndexBuilder

end Grounded
