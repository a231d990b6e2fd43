import Grounded.Proofs.BatchTrace

/-!
# Batches of any size

An embedder that works text by text cannot be told by its answers in what portions it was asked. However the
texts are cut, the first text that has no vector is the first one that a batch fails with, and the vectors of the
batches make up the vectors of the texts. So the matrix of a build, or its error, is that of the texts, a row of
another width included, which is looked for in all rows together. What the portions do decide is how many calls
are made, and so how many pauses: the batches up to the one with the first text that has no vector.
-/

namespace Grounded

/--
The embedder works text by text: whatever its state, it answers a batch with the vectors of the texts, or fails
with the error of the first text that has none. Nothing is said of batches without texts, which are never sent.
-/
def Embedder.TextByText {σ : Type} (e : Embedder (StateM σ))
    (vector : String → Except Error (List Single)) : Prop :=
  ∀ texts s, texts ≠ [] → ((e.embedBatch texts).run.run s).1 = texts.mapM vector

/-! ## Texts one after the other -/

section Vectors

variable (vector : String → Except Error (List Single))

theorem mapM_append_error {texts : List String} {cause : Error}
    (h : texts.mapM vector = .error cause) (more : List String) :
    (texts ++ more).mapM vector = .error cause := by
  rw [List.mapM_append, h]
  rfl

theorem mapM_append_ok {texts : List String} {vectors : List (List Single)}
    (h : texts.mapM vector = .ok vectors) (more : List String) :
    (texts ++ more).mapM vector = (more.mapM vector).map (vectors ++ ·) := by
  rw [List.mapM_append, h]
  cases more.mapM vector with
  | error cause => rfl
  | ok others => rfl

theorem length_of_mapM {texts : List String} {vectors : List (List Single)}
    (h : texts.mapM vector = .ok vectors) : vectors.length = texts.length := by
  induction texts generalizing vectors with
  | nil =>
      cases h
      rfl
  | cons text texts ih =>
      rw [List.mapM_cons] at h
      cases hfirst : vector text with
      | error cause => rw [hfirst] at h; cases h
      | ok first =>
          cases hothers : texts.mapM vector with
          | error cause => rw [hfirst, hothers] at h; cases h
          | ok others =>
              rw [hfirst, hothers] at h
              cases h
              rw [List.length_cons, List.length_cons, ih hothers]

/-- The text has no vector. -/
def fails (text : String) : Bool := !(vector text).isOk

theorem isOk_mapM (texts : List String) :
    (texts.mapM vector).isOk = texts.all fun text => !fails vector text := by
  induction texts with
  | nil => rfl
  | cons text texts ih =>
      rw [List.mapM_cons, List.all_cons, ← ih, fails, Bool.not_not]
      cases vector text with
      | error cause => rfl
      | ok first =>
          cases texts.mapM vector with
          | error cause => rfl
          | ok others => rfl

/-- There are vectors for texts unless one of them has none. -/
theorem isOk_mapM_iff (texts : List String) :
    (texts.mapM vector).isOk = true ↔ ¬ texts.findIdx (fails vector) < texts.length := by
  rw [isOk_mapM, List.all_eq_true, List.findIdx_lt_length]
  simp only [Bool.not_eq_true', not_exists, not_and, Bool.not_eq_true]

/-- The calls for batches: each is answered text by text, and the first that fails is the last one. -/
def textCalls : List (List String) → List BatchCall
  | [] => []
  | texts :: rest =>
    ⟨texts, texts.mapM vector⟩ :: if (texts.mapM vector).isOk then textCalls rest else []

end Vectors

/-- **A run that is answered text by text** makes these calls, and its vectors are those of all texts. -/
theorem BatchRun.of_textByText {vector : String → Except Error (List Single)} {number : Nat}
    {batches : List (List String)} {calls : List BatchCall}
    {result : Except Error (List (List Single))} (h : BatchRun number batches calls result)
    (hanswers : ∀ c ∈ calls, c.answer = c.texts.mapM vector) :
    calls = textCalls vector batches ∧ result = batches.flatten.mapM vector := by
  induction h with
  | done => exact ⟨rfl, rfl⟩
  | @stopped _ c _ misfit =>
      obtain ⟨texts, answer⟩ := c
      obtain rfl : answer = texts.mapM vector := hanswers _ (List.mem_singleton_self _)
      cases hvectors : texts.mapM vector with
      | ok vectors =>
          rw [hvectors] at misfit
          exact absurd ⟨vectors, rfl, length_of_mapM vector hvectors⟩ misfit
      | error cause =>
          rw [textCalls, List.flatten_cons, mapM_append_error vector hvectors, hvectors]
          exact ⟨rfl, rfl⟩
  | @fitted _ c _ calls result fits _ ih =>
      obtain ⟨texts, answer⟩ := c
      obtain ⟨hanswer, hlater⟩ := List.forall_mem_cons.mp hanswers
      obtain rfl : answer = texts.mapM vector := hanswer
      obtain ⟨rfl, rfl⟩ := ih hlater
      obtain ⟨vectors, hvectors, _⟩ := fits
      rw [textCalls, List.flatten_cons, mapM_append_ok vector hvectors]
      dsimp only at hvectors
      rw [hvectors]
      exact ⟨rfl, rfl⟩

/-! ## How many calls -/

/-- How many texts decide what comes out: those up to the first that has no vector, or all of them. -/
def decisive (vector : String → Except Error (List Single)) (texts : List String) : Nat :=
  min (texts.findIdx (fails vector) + 1) texts.length

namespace Batching

variable (b : Batching)

/-- **The calls are as many as the texts that decide fill batches.** -/
theorem length_textCalls (vector : String → Except Error (List Single)) (texts : List String) :
    (textCalls vector (b.batches texts)).length = b.batchCount (decisive vector texts) := by
  fun_induction b.batches texts with
  | case1 => exact b.batchCount_zero.symm
  | case2 text rest ih =>
      have hpos := b.size_pos
      have hbatch : ((text :: rest).take b.size).length = min b.size (rest.length + 1) := by
        rw [List.length_take, List.length_cons]
      have hothers : ((text :: rest).drop b.size).length = rest.length + 1 - b.size := by
        rw [List.length_drop, List.length_cons]
      have hfind : (text :: rest).findIdx (fails vector)
          = if ((text :: rest).take b.size).findIdx (fails vector)
              < ((text :: rest).take b.size).length
            then ((text :: rest).take b.size).findIdx (fails vector)
            else ((text :: rest).drop b.size).findIdx (fails vector)
              + ((text :: rest).take b.size).length := by
        rw [← List.findIdx_append, List.take_append_drop]
      rw [textCalls, List.length_cons, decisive, hfind, List.length_cons]
      by_cases hfirst : ((text :: rest).take b.size).findIdx (fails vector)
          < ((text :: rest).take b.size).length
      · -- the batch has a text without a vector and is the last one
        rw [if_pos hfirst, if_neg (fun h => (isOk_mapM_iff vector _).mp h hfirst),
          b.batchCount_of_le (by omega) (by omega)]
        rfl
      · rw [if_neg hfirst, if_pos ((isOk_mapM_iff vector _).mpr hfirst), ih, decisive]
        by_cases hfull : b.size ≤ rest.length + 1
        · rw [← b.batchCount_add_size]
          congr 1
          omega
        · -- there are no others
          rw [b.batchCount_of_le (n := min _ (rest.length + 1)) (by omega) (by omega)]
          have hnone : min (((text :: rest).drop b.size).findIdx (fails vector) + 1)
              ((text :: rest).drop b.size).length = 0 := by omega
          rw [hnone, b.batchCount_zero]

/-- **A build with an embedder that works text by text:** its result is that of the texts, and its calls are given. -/
theorem records_build_of_textByText {σ : Type} {e : Embedder (StateM σ)}
    {vector : String → Except Error (List Single)} (h : e.TextByText vector)
    (pause : Nat → StateM σ Unit) (texts : List String) (s : σ) :
    ∃ s', Records (b.build e pause texts).run (b.build e.recorded (recordedPause pause) texts).run s
      ((texts.mapM vector).bind stacked) (b.events (textCalls vector (b.batches texts))) s' := by
  obtain ⟨calls, result, s', hrecords, hrun, hgiven⟩ := b.records_build_given e pause texts s
  have hanswers : ∀ c ∈ calls, c.answer = c.texts.mapM vector := by
    intro c hc
    obtain ⟨s₀, hanswer⟩ := hgiven c hc
    have hmem : c.texts ∈ b.batches texts := hrun.texts_prefix.subset (List.mem_map_of_mem hc)
    rw [← hanswer, h c.texts s₀ (b.length_of_mem_batches texts c.texts hmem).1]
  obtain ⟨rfl, rfl⟩ := hrun.of_textByText hanswers
  rw [flatten_batches] at hrecords
  exact ⟨s', hrecords⟩

/--
**The batch size decides nothing but the number of calls.** With an embedder that works text by text, two builds of
the same chunks, with batches of any sizes and pauses of any lengths and from any states, come to the same matrix
or to the same error. It is that of the texts one by one. Each build calls for its batches up to the one with the
first text that has no vector, each of them is answered text by text, and a pause of some length stands between
every two calls and nowhere else.
-/
theorem build_eq_of_textByText {σ : Type} {e : Embedder (StateM σ)}
    {vector : String → Except Error (List Single)} (h : e.TextByText vector) (chunks : List Chunk) :
    (∀ (b other : Batching) (pause otherPause : Nat → StateM σ Unit) (s otherState : σ),
      ((b.build e pause (chunks.map (·.text))).run.run s).1
        = ((other.build e otherPause (chunks.map (·.text))).run.run otherState).1) ∧
    ∀ (b : Batching) (pause : Nat → StateM σ Unit) (s : σ),
      (∃ s', Records (b.build e pause (chunks.map (·.text))).run
        (b.build e.recorded (recordedPause pause) (chunks.map (·.text))).run s
        (((chunks.map (·.text)).mapM vector).bind stacked)
        (b.events (textCalls vector (b.batches (chunks.map (·.text))))) s') ∧
      (textCalls vector (b.batches (chunks.map (·.text)))).length
        = b.batchCount (decisive vector (chunks.map (·.text))) := by
  have hresult : ∀ (b : Batching) (pause : Nat → StateM σ Unit) (s : σ),
      ((b.build e pause (chunks.map (·.text))).run.run s).1
        = ((chunks.map (·.text)).mapM vector).bind stacked := by
    intro b pause s
    obtain ⟨s', hrecords⟩ := b.records_build_of_textByText h pause (chunks.map (·.text)) s
    exact congrArg Prod.fst hrecords.plain
  refine ⟨?_, ?_⟩
  · intro b other pause otherPause s otherState
    rw [hresult, hresult]
  · intro b pause s
    exact ⟨b.records_build_of_textByText h pause _ s, b.length_textCalls vector _⟩

/-- The vector of a text has a number for each of its characters, and the empty text has none. -/
def unaryVector (text : String) : Except Error (List Single) :=
  if text = "" then .error (.embedding "empty text")
  else .ok (text.toList.map fun _ => .negativeZero)

/-- An embedder that counts its calls. -/
def unaryEmbedder : Embedder (StateM Nat) where
  model := "unary"
  embed text := ExceptT.mk fun calls => (unaryVector text, calls + 1)
  embedBatch texts := ExceptT.mk fun calls => (texts.mapM unaryVector, calls + 1)

/-- Three chunks, the last of which gets a vector that is wider than the others. -/
def unequalChunks : List Chunk := ["a", "b", "cc"].map fun text => ⟨text, "notes", "", .docs⟩

/-- In batches of two and in a single one, the row is counted among all rows. -/
theorem build_eq_of_textByText_unequal :
    unaryEmbedder.TextByText unaryVector ∧
      (((⟨2, 0⟩ : Batching).build unaryEmbedder (fun _ => pure ())
          (unequalChunks.map (·.text))).run.run 0).1
        = (((⟨5, 1000⟩ : Batching).build unaryEmbedder (fun _ => modify (· + 10))
          (unequalChunks.map (·.text))).run.run 7).1 ∧
      (((⟨2, 0⟩ : Batching).build unaryEmbedder (fun _ => pure ())
          (unequalChunks.map (·.text))).run.run 0).1
        = .error (.embedding "Row 2 has 2 dimensions, expected 1") := by
  have htexts : unaryEmbedder.TextByText unaryVector := fun texts s _ => rfl
  obtain ⟨hsame, hruns⟩ := build_eq_of_textByText htexts unequalChunks
  obtain ⟨⟨_, hrecords⟩, _⟩ := hruns ⟨2, 0⟩ (fun _ => pure ()) 0
  exact ⟨htexts, hsame _ _ _ _ _ _, congrArg Prod.fst hrecords.plain⟩

end Batching

end Grounded
