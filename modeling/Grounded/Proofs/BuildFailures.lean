import Grounded.Proofs.BatchTrace
import Grounded.Proofs.BuildAlign

/-!
# Builds that fail

A build collects chunks, embeds them and saves the index. Until it saves, it has touched no file: whatever
goes wrong before (`Stops`), the disk is the one that the build was given, with the index that it held and
without the directory that it did not hold. And whatever does not go wrong before leads to a save
(`Saves`), so that there is no third way.

A build is looked at from the collection on (`buildFrom`), which may itself fail, and together with the
record of its calls, which shows how far it came.
-/

namespace Grounded

variable {σ : Type}

namespace Ingestor

/-- Reading the pages of a site writes nothing down. -/
theorem siteChunks_silently (i : Ingestor) (read : String → StateM σ (Option String)) :
    i.siteChunks (fun page => silently (read page)) = silently (i.siteChunks read) := by
  rw [siteChunks, siteChunks, silently_bind, silently_mapM]
  rfl

theorem fetchPage_silently (rules : NameRules) (transport : Transport (StateM σ))
    (site page : String) :
    fetchPage rules (fun request => silently (transport request)) site page
      = silently (fetchPage rules transport site page) := by
  rw [fetchPage, fetchPage]
  cases pageUrl? rules site page with
  | none => rfl
  | some url =>
      dsimp only
      rw [silently_bind]
      refine bind_congr fun answer => ?_
      cases answer <;> rfl

end Ingestor

/-- The services with the pauses written down. -/
def Services.recorded (s : Services (StateM σ)) : Services (StateM (σ × List Event)) where
  transport request := silently (s.transport request)
  pause := recordedPause s.pause
  now := silently s.now

namespace IndexBuilder

open KnowledgeIndex

/-- The builder whose embedder writes its calls down. -/
def recorded (b : IndexBuilder (StateM σ)) : IndexBuilder (StateM (σ × List Event)) where
  settings := b.settings
  embedder := b.embedder.recorded
  services := b.services.recorded

/-! ## From the collection on -/

section From

variable {m : Type → Type} [Monad m]

/-- The index of what is collected. -/
def prepareFrom (b : IndexBuilder m) (collected : ExceptT Error m Corpus) :
    ExceptT Error m (Corpus × KnowledgeIndex) := do
  let corpus ← collected
  if corpus.isEmpty then throw noChunks
  else return (corpus, ← b.embed corpus.chunks)

end From

/-- A build of what is collected. -/
def buildFrom (b : IndexBuilder (StateM σ)) (d : Disk) (collected : ExceptT Error (StateM σ) Corpus)
    (outputDir : String) : StateM σ (Except Error IndexSummary × Disk) := do
  b.finish d outputDir (← (b.prepareFrom collected).run)

/-- **A build is one of what it collects itself.** -/
theorem build_eq (b : IndexBuilder (StateM σ)) (d : Disk) (site : SiteSource)
    (codeDir outputDir : String) : b.build d site codeDir outputDir
      = b.buildFrom d (liftM (b.collect d site codeDir)) outputDir := by
  have hprepare : b.prepare d site codeDir = b.prepareFrom (liftM (b.collect d site codeDir)) := rfl
  rw [build, hprepare, buildFrom]
  refine bind_congr fun prepared => ?_
  cases prepared <;> rfl

theorem collect_recorded (b : IndexBuilder (StateM σ)) (d : Disk) (site : SiteSource)
    (codeDir : String) : b.recorded.collect d site codeDir = silently (b.collect d site codeDir) := by
  have hdocs : b.recorded.collectDocs d site = silently (b.collectDocs d site) := by
    cases site with
    | dir path => rfl
    | skip => rfl
    | fetch =>
        rw [collectDocs, collectDocs, Ingestor.fetchSite, Ingestor.fetchSite,
          ← Ingestor.siteChunks_silently]
        exact congrArg b.ingestor.siteChunks (funext fun page => Ingestor.fetchPage_silently _ _ _ page)
  rw [collect, collect, hdocs]
  rfl

theorem build_recorded (b : IndexBuilder (StateM σ)) (d : Disk) (site : SiteSource)
    (codeDir outputDir : String) : b.recorded.build d site codeDir outputDir
      = b.recorded.buildFrom d (liftM (silently (b.collect d site codeDir))) outputDir := by
  rw [build_eq, collect_recorded]

/-! ## What keeps a build from saving -/

/-- What ends a build before it saves: the calls that were made until then, and the error. -/
inductive Stops (b : IndexBuilder (StateM σ)) :
    Except Error Corpus → List BatchCall → Error → Prop
  /-- The chunks cannot be collected. -/
  | collection (cause : Error) : Stops b (.error cause) [] cause
  /-- There are no chunks. -/
  | nothing {corpus : Corpus} (none : corpus.chunks = []) : Stops b (.ok corpus) [] noChunks
  /-- A request fails or comes back with a wrong number of vectors; those before it were answered. -/
  | call {corpus : Corpus} {calls : List BatchCall} {c : BatchCall}
      (sent : b.batching.SentFor (corpus.chunks.map (·.text)) calls) (last : calls.getLast? = some c)
      (misfit : ¬ c.Fits) : Stops b (.ok corpus) calls (c.failure calls.length)
  /-- Every request was answered, but not all vectors are as wide as the first one. -/
  | rows {corpus : Corpus} {calls : List BatchCall} {ragged : Matrix.Ragged}
      (sent : b.batching.SentFor (corpus.chunks.map (·.text)) calls) (fits : ∀ c ∈ calls, c.Fits)
      (rows : Matrix.ofRows (calls.flatMap (·.vectors)) = .error ragged) :
      Stops b (.ok corpus) calls (.embedding ragged.message)

/-- A build that saves: everything before went well, and the disk is what the save leaves of it. -/
structure Saves (b : IndexBuilder (StateM σ)) (d : Disk) (outputDir : String) (corpus : Corpus)
    (calls : List BatchCall) (index : KnowledgeIndex) (result : Except Error IndexSummary) (d' : Disk) :
    Prop where
  nonempty : corpus.chunks ≠ []
  sent : b.batching.SentFor (corpus.chunks.map (·.text)) calls
  fits : ∀ c ∈ calls, c.Fits
  rows : Matrix.ofRows (calls.flatMap (·.vectors)) = .ok index.matrix
  chunks : index.chunks = corpus.chunks
  saved : ∃ builtAt stored,
    (index.save outputDir (index.manifest b.embedder.model builtAt)).run.run d = (stored, d') ∧
      result = stored.map (summary corpus index)

theorem isEmpty_iff (corpus : Corpus) : corpus.isEmpty = true ↔ corpus.chunks = [] := by
  rw [Corpus.isEmpty, beq_iff_eq, ← corpus.length_chunks, List.length_eq_zero_iff]

/-- Without texts there is nothing to send. -/
theorem calls_of_noTexts {batching : Batching} {calls : List BatchCall} (h : batching.SentFor [] calls) :
    calls = [] := by
  cases calls with
  | nil => rfl
  | cons c calls =>
      obtain ⟨hne, _⟩ := h.portion c List.mem_cons_self
      have hflat := List.prefix_nil.mp h.inOrder
      rw [List.flatMap_cons, List.append_eq_nil_iff] at hflat
      exact absurd hflat.1 hne

/-- A run over batches that fails has a last call, which does not fit. -/
theorem last_of_error {batches : List (List String)} {calls : List BatchCall} {cause : Error}
    (h : BatchRun 1 batches calls (.error cause)) :
    ∃ c, calls.getLast? = some c ∧ ¬ c.Fits ∧ cause = c.failure calls.length := by
  have hmisfit : ¬ ∀ c ∈ calls, c.Fits := by
    intro hfits
    cases (h.of_fits hfits).2
  cases hlast : calls.getLast? with
  | none =>
      rw [List.getLast?_eq_none_iff.mp hlast] at hmisfit
      exact absurd (fun c hc => absurd hc List.not_mem_nil) hmisfit
  | some c =>
      have hc : ¬ c.Fits := by
        -- all calls before the last one fit anyway
        intro hfits
        refine hmisfit fun c' hc' => ?_
        obtain ⟨before, rfl⟩ := List.getLast?_eq_some_iff.mp hlast
        rcases List.mem_append.mp hc' with hbefore | hc'
        · refine h.fits_of_mem_dropLast c' ?_
          rwa [List.dropLast_concat]
        · rwa [List.mem_singleton.mp hc']
      refine ⟨c, rfl, hc, ?_⟩
      have hresult := h.result_of_misfit hlast hc
      rw [Nat.add_sub_cancel_left] at hresult
      exact Except.error.inj hresult

/-! ## Every build -/

/-- What comes of embedding chunks, with the calls: a misfit, rows of several widths, or an index. -/
inductive Embeds (b : IndexBuilder (StateM σ)) (chunks : List Chunk) (calls : List BatchCall) :
    Except Error KnowledgeIndex → Prop
  | call {c : BatchCall} (last : calls.getLast? = some c) (misfit : ¬ c.Fits) :
      Embeds b chunks calls (.error (c.failure calls.length))
  | rows {ragged : Matrix.Ragged} (fits : ∀ c ∈ calls, c.Fits)
      (rows : Matrix.ofRows (calls.flatMap (·.vectors)) = .error ragged) :
      Embeds b chunks calls (.error (.embedding ragged.message))
  | index {index : KnowledgeIndex} (fits : ∀ c ∈ calls, c.Fits)
      (rows : Matrix.ofRows (calls.flatMap (·.vectors)) = .ok index.matrix)
      (same : index.chunks = chunks) : Embeds b chunks calls (.ok index)

theorem records_embed (b : IndexBuilder (StateM σ)) (chunks : List Chunk) (s : σ) :
    ∃ calls result s', Records (b.embed chunks).run (b.recorded.embed chunks).run s result
      (b.batching.events calls) s' ∧
      b.batching.SentFor (chunks.map (·.text)) calls ∧ b.Embeds chunks calls result := by
  obtain ⟨calls, vectors, s', hrecords, hrun⟩ :=
    b.batching.records_build b.embedder b.services.pause (chunks.map (·.text)) s
  have hsent := b.batching.sentFor_of_batchRun hrun
  cases vectors with
  | error cause =>
      obtain ⟨c, hlast, hmisfit, rfl⟩ := last_of_error hrun
      exact ⟨calls, _, s', hrecords.bind_error, hsent, .call hlast hmisfit⟩
  | ok vectors =>
      have hfits := hrun.fits_of_ok
      obtain ⟨hbatches, hvectors⟩ := hrun.of_fits hfits
      cases hvectors
      cases hrows : Matrix.ofRows (calls.flatMap (·.vectors)) with
      | error ragged =>
          rw [Except.bind, Batching.stacked, hrows] at hrecords
          exact ⟨calls, _, s', hrecords.bind_error, hsent, .rows hfits hrows⟩
      | ok m =>
          rw [Except.bind, Batching.stacked, hrows] at hrecords
          have hlength : m.rows = chunks.length := by
            rw [(Matrix.of_ofRows hrows).1, BatchCall.length_flatMap_vectors hfits, List.flatMap_def,
              hbatches, Batching.flatten_batches, List.length_map]
          have hpair := KnowledgeIndex.pair_of_rows hlength
          refine ⟨calls, .ok ⟨chunks, m, hlength.symm⟩, s', hrecords.bind_ok_silent ?_, hsent,
            .index hfits hrows rfl⟩
          rw [hpair]
          exact records_pure _ s'

section Prepare

variable (b : IndexBuilder (StateM σ)) {collected : ExceptT Error (StateM σ) Corpus} {corpus : Corpus}
  {s s₀ : σ} (h : collected.run.run s = (.ok corpus, s₀))

include h

theorem records_prepareFrom_of_empty (hempty : corpus.chunks = []) :
    Records (b.prepareFrom collected).run
      (b.recorded.prepareFrom (ExceptT.mk (silently collected.run))).run s (.error noChunks) [] s₀ := by
  refine Records.bind_ok (records_silently h) ?_
  rw [if_pos ((isEmpty_iff corpus).mpr hempty), if_pos ((isEmpty_iff corpus).mpr hempty)]
  exact records_pure _ s₀

theorem records_prepareFrom (hne : corpus.chunks ≠ []) : ∃ calls embedded s₁,
    Records (b.prepareFrom collected).run
      (b.recorded.prepareFrom (ExceptT.mk (silently collected.run))).run s
      (embedded.map (corpus, ·)) (b.batching.events calls) s₁ ∧
    b.batching.SentFor (corpus.chunks.map (·.text)) calls ∧ b.Embeds corpus.chunks calls embedded := by
  obtain ⟨calls, embedded, s₁, hembed, hsent, hresult⟩ := b.records_embed corpus.chunks s₀
  refine ⟨calls, embedded, s₁, Records.bind_ok (records_silently h) ?_, hsent, hresult⟩
  have hsome : ¬ corpus.isEmpty = true := (isEmpty_iff corpus).not.mpr hne
  rw [if_neg hsome, if_neg hsome]
  cases embedded with
  | error cause => exact hembed.bind_error
  | ok index => exact hembed.bind_ok_silent (records_pure _ s₁)

end Prepare

/-- What a build does with an index: it asks for the time, and saves. -/
theorem records_finish (b : IndexBuilder (StateM σ)) (d : Disk) (outputDir : String) (corpus : Corpus)
    (index : KnowledgeIndex) (s : σ) : ∃ builtAt stored d' s',
      (index.save outputDir (index.manifest b.embedder.model builtAt)).run.run d = (stored, d') ∧
      Records (b.finish d outputDir (.ok (corpus, index)))
        (b.recorded.finish d outputDir (.ok (corpus, index))) s
        (stored.map (summary corpus index), d') [] s' := by
  cases hnow : b.services.now.run s with
  | mk builtAt s' =>
      cases hsave : (index.save outputDir (index.manifest b.embedder.model builtAt)).run.run d with
      | mk stored d' =>
          refine ⟨builtAt, stored, d', s', hsave, ?_⟩
          have hmodel : b.recorded.embedder.model = b.embedder.model := rfl
          refine (records_silently hnow).bind_silent ?_
          dsimp only
          rw [hmodel, hsave]
          exact records_pure _ s'

/-- **A build stops before it has touched a file, or it saves.** -/
theorem records_buildFrom (b : IndexBuilder (StateM σ)) (d : Disk) (outputDir : String)
    (collected : ExceptT Error (StateM σ) Corpus) (s : σ) : ∃ calls result d' s',
      Records (b.buildFrom d collected outputDir)
        (b.recorded.buildFrom d (ExceptT.mk (silently collected.run)) outputDir) s (result, d')
        (b.batching.events calls) s' ∧
      ((∃ cause, b.Stops (collected.run.run s).1 calls cause ∧ result = .error cause ∧ d' = d) ∨
        ∃ corpus index, (collected.run.run s).1 = .ok corpus ∧
          b.Saves d outputDir corpus calls index result d') := by
  have hnone : b.batching.events [] = [] := by
    rw [Batching.events]
    split <;> rfl
  -- by how far it comes: what is collected, whether there are chunks, and what comes of embedding them
  cases hcollected : collected.run.run s with
  | mk found s₀ =>
      have hfirst := records_silently hcollected
      cases found with
      | error cause =>
          refine ⟨[], .error cause, d, s₀, ?_, .inl ⟨cause, .collection cause, rfl, rfl⟩⟩
          rw [hnone]
          exact (Records.bind_error hfirst).bind_silent (records_pure _ s₀)
      | ok corpus =>
          by_cases hempty : corpus.chunks = []
          · refine ⟨[], .error noChunks, d, s₀, ?_, .inl ⟨noChunks, .nothing hempty, rfl, rfl⟩⟩
            have hprepare := b.records_prepareFrom_of_empty hcollected hempty
            rw [hnone]
            exact hprepare.bind_silent (records_pure _ s₀)
          · obtain ⟨calls, embedded, s₁, hprepare, hsent, hembed⟩ :=
              b.records_prepareFrom hcollected hempty
            cases hembed with
            | call hlast hmisfit =>
                exact ⟨calls, _, d, s₁, hprepare.bind_silent (records_pure _ s₁),
                  .inl ⟨_, .call hsent hlast hmisfit, rfl, rfl⟩⟩
            | rows hfits hrows =>
                exact ⟨calls, _, d, s₁, hprepare.bind_silent (records_pure _ s₁),
                  .inl ⟨_, .rows hsent hfits hrows, rfl, rfl⟩⟩
            | @index index hfits hrows hsame =>
                obtain ⟨builtAt, stored, d', s', hsave, hfinish⟩ :=
                  b.records_finish d outputDir corpus index s₁
                exact ⟨calls, _, d', s', hprepare.bind_silent hfinish, .inr ⟨corpus, index, rfl,
                  hempty, hsent, hfits, hrows, hsame, builtAt, stored, hsave, rfl⟩⟩

/-! ## One or the other -/

section Exclusive

variable {b : IndexBuilder (StateM σ)} {found : Except Error Corpus} {calls : List BatchCall}

/-- Without chunks it ends before the first call. -/
theorem Stops.of_empty {corpus : Corpus} {cause : Error} (h : b.Stops (.ok corpus) calls cause)
    (hempty : corpus.chunks = []) : calls = [] ∧ cause = noChunks := by
  cases h with
  | nothing _ => exact ⟨rfl, rfl⟩
  | call sent last _ =>
      rw [hempty, List.map_nil] at sent
      rw [calls_of_noTexts sent, List.getLast?_nil] at last
      cases last
  | rows sent _ rows =>
      rw [hempty, List.map_nil] at sent
      rw [calls_of_noTexts sent, List.flatMap_nil] at rows
      cases rows

/-- The collection and the calls decide what ends a build. -/
theorem Stops.unique {cause cause' : Error} (h : b.Stops found calls cause)
    (h' : b.Stops found calls cause') : cause = cause' := by
  cases h with
  | collection cause => cases h'; rfl
  | nothing none => exact (h'.of_empty none).2.symm
  | call sent last misfit =>
      cases h' with
      | nothing none => exact (Stops.of_empty (.call sent last misfit) none).2
      | call _ last' _ => rw [Option.some.inj (last.symm.trans last')]
      | rows _ fits _ => exact absurd (fits _ (List.mem_of_getLast? last)) misfit
  | rows sent fits rows =>
      cases h' with
      | nothing none => exact (Stops.of_empty (.rows sent fits rows) none).2
      | call _ last misfit => exact absurd (fits _ (List.mem_of_getLast? last)) misfit
      | rows _ _ rows' => rw [Except.error.inj (rows.symm.trans rows')]

/-- What ends a build keeps it from saving. -/
theorem Saves.not_stops {d d' : Disk} {outputDir : String} {corpus : Corpus} {index : KnowledgeIndex}
    {result : Except Error IndexSummary} {cause : Error}
    (h : b.Saves d outputDir corpus calls index result d') : ¬ b.Stops (.ok corpus) calls cause := by
  intro hstops
  cases hstops with
  | nothing none => exact h.nonempty none
  | call _ last misfit => exact misfit (h.fits _ (List.mem_of_getLast? last))
  | rows _ _ rows => cases h.rows.symm.trans rows

end Exclusive

/--
**Whatever fails before the save leaves everything as it was.** Let the chunks come from anywhere. When
they cannot be collected, when there are none, when a call of the embedder fails or answers with a wrong
number of vectors, or when the vectors are of several widths, then that is the error of the build, and
the disk is the one that it was given. Without any of this the build saves. Without chunks it always
fails, and never calls the embedder. A build is of this kind, with what it collects itself.
-/
theorem unchanged_until_saved (b : IndexBuilder (StateM σ)) (d : Disk) (outputDir : String) (s : σ) :
    (∀ collected : ExceptT Error (StateM σ) Corpus, ∃ calls result d' s',
      Records (b.buildFrom d collected outputDir)
        (b.recorded.buildFrom d (ExceptT.mk (silently collected.run)) outputDir) s (result, d')
        (b.batching.events calls) s' ∧
      (∀ cause, b.Stops (collected.run.run s).1 calls cause → result = .error cause ∧ d' = d) ∧
      ((∀ cause, ¬ b.Stops (collected.run.run s).1 calls cause) →
        ∃ corpus index, (collected.run.run s).1 = .ok corpus ∧
          b.Saves d outputDir corpus calls index result d') ∧
      (∀ corpus, (collected.run.run s).1 = .ok corpus → corpus.chunks = [] →
        calls = [] ∧ result = .error noChunks ∧ d' = d)) ∧
    ∀ site codeDir,
      b.build d site codeDir outputDir
        = b.buildFrom d (liftM (b.collect d site codeDir)) outputDir ∧
      b.recorded.build d site codeDir outputDir
        = b.recorded.buildFrom d (ExceptT.mk (silently
            (liftM (b.collect d site codeDir) : ExceptT Error (StateM σ) Corpus).run)) outputDir := by
  refine ⟨?_, fun site codeDir => ⟨b.build_eq d site codeDir outputDir,
    b.build_recorded d site codeDir outputDir⟩⟩
  intro collected
  obtain ⟨calls, result, d', s', hrecords, hends⟩ := b.records_buildFrom d outputDir collected s
  refine ⟨calls, result, d', s', hrecords, ?_⟩
  rcases hends with ⟨cause, hstops, rfl, rfl⟩ | ⟨corpus, index, hcorpus, hsaves⟩
  · refine ⟨?_, fun hnone => absurd hstops (hnone cause), ?_⟩
    · intro cause' hstops'
      rw [hstops.unique hstops']
      exact ⟨rfl, rfl⟩
    · intro corpus hcorpus hempty
      rw [hcorpus] at hstops
      obtain ⟨hcalls, hcause⟩ := hstops.of_empty hempty
      exact ⟨hcalls, congrArg Except.error hcause, rfl⟩
  · rw [hcorpus]
    refine ⟨fun cause hstops => absurd hstops hsaves.not_stops,
      fun _ => ⟨corpus, index, rfl, hsaves⟩, ?_⟩
    intro corpus' hcorpus' hempty
    cases hcorpus'
    exact absurd hempty hsaves.nonempty

end IndexBuilder

end Grounded
