import Grounded.Index.Build
import Grounded.Proofs.BatchAlign
import Grounded.Proofs.Recording

/-!
# The calls of a build

While a matrix is built, an embedder is called batch by batch, with pauses between. Any call may fail or
come back with a wrong number of vectors, and then the build is over. `BatchRun` says what one more batch
does to a run, a case for each answer; from it follows what the record of a whole build shows: which texts
were sent and in which portions, where the pauses stand, what ended the build, and that a matrix that does
come out of it has the vectors of the record as its rows.
-/

namespace Grounded

/-! ## Calls and batches -/

/-- A call to embed a batch of texts, with the answer to it. -/
structure BatchCall where
  texts : List String
  answer : Except Error (List (List Single))

namespace BatchCall

/-- The call as it is recorded. -/
def event (c : BatchCall) : Event := .embeddedBatch c.texts c.answer

/-- The vectors of the answer; a failure has none. -/
def vectors (c : BatchCall) : List (List Single) :=
  match c.answer with
  | .ok vectors => vectors
  | .error _ => []

/-- Each text with the vector at its position in the answer. -/
def answered (c : BatchCall) : List (String × List Single) := c.texts.zip c.vectors

/-- The answer has one vector for each text. -/
def Fits (c : BatchCall) : Prop := ∃ vectors, c.answer = .ok vectors ∧ vectors.length = c.texts.length

/-- In some state, the embedder answers so. -/
def Given {σ : Type} (c : BatchCall) (e : Embedder (StateM σ)) : Prop :=
  ∃ s, ((e.embedBatch c.texts).run.run s).1 = c.answer

/-- What a call that does not fit is reported as, with its number. -/
def failure (number : Nat) (c : BatchCall) : Error :=
  match c.answer with
  | .error cause => cause
  | .ok vectors =>
    .embedding s!"Batch {number} returned {vectors.length} vectors for {c.texts.length} texts"

theorem Fits.length_vectors {c : BatchCall} (h : c.Fits) : c.vectors.length = c.texts.length := by
  obtain ⟨vectors, hanswer, hlength⟩ := h
  rw [BatchCall.vectors, hanswer]
  exact hlength

theorem length_flatMap_vectors {calls : List BatchCall} (h : ∀ c ∈ calls, c.Fits) :
    (calls.flatMap (·.vectors)).length = (calls.flatMap (·.texts)).length := by
  induction calls with
  | nil => rfl
  | cons c calls ih =>
      obtain ⟨hc, hcalls⟩ := List.forall_mem_cons.mp h
      rw [List.flatMap_cons, List.flatMap_cons, List.length_append, List.length_append,
        hc.length_vectors, ih hcalls]

/-- Calls that fit answer every text at its place. -/
theorem flatMap_answered {calls : List BatchCall} (h : ∀ c ∈ calls, c.Fits) :
    calls.flatMap answered = (calls.flatMap (·.texts)).zip (calls.flatMap (·.vectors)) := by
  induction calls with
  | nil => rfl
  | cons c calls ih =>
      obtain ⟨hc, hcalls⟩ := List.forall_mem_cons.mp h
      rw [List.flatMap_cons, List.flatMap_cons, List.flatMap_cons, ih hcalls,
        List.zip_append hc.length_vectors.symm]
      rfl

end BatchCall

namespace Batching

variable (b : Batching)

theorem batchCount_zero : b.batchCount 0 = 0 := by
  have hpos := b.size_pos
  rw [batchCount, Nat.div_eq_of_lt (by omega)]

theorem batchCount_of_le {n : Nat} (hpos : 0 < n) (hn : n ≤ b.size) : b.batchCount n = 1 := by
  have hsum : n + b.size - 1 = n - 1 + b.size := by omega
  rw [batchCount, hsum, Nat.add_div_right _ b.size_pos, Nat.div_eq_of_lt (by omega)]

theorem batchCount_add_size (n : Nat) : b.batchCount (n + b.size) = b.batchCount n + 1 := by
  have hpos := b.size_pos
  have hsum : n + b.size + b.size - 1 = n + b.size - 1 + b.size := by omega
  rw [batchCount, hsum, Nat.add_div_right _ hpos, batchCount]

/-- There are as many batches as batches are counted. -/
theorem length_batches {α : Type} (xs : List α) :
    (b.batches xs).length = b.batchCount xs.length := by
  fun_induction b.batches xs with
  | case1 => exact b.batchCount_zero.symm
  | case2 x rest ih =>
      rw [List.length_cons, ih, List.length_drop]
      by_cases hfull : b.size ≤ (x :: rest).length
      · rw [← b.batchCount_add_size, Nat.sub_add_cancel hfull]
      · -- the batch is the last one, and not full
        have hsome : 0 < (x :: rest).length := Nat.succ_pos rest.length
        rw [Nat.sub_eq_zero_of_le (Nat.le_of_not_le hfull), b.batchCount_zero,
          b.batchCount_of_le hsome (Nat.le_of_not_le hfull)]

/-- A batch is a stretch of the list at its place. -/
theorem getElem?_batches {α : Type} (xs : List α) {n : Nat} {batch : List α}
    (h : (b.batches xs)[n]? = some batch) : batch = (xs.drop (n * b.size)).take b.size := by
  fun_induction b.batches xs generalizing n with
  | case1 => cases h
  | case2 x rest ih =>
      cases n with
      | zero =>
          injection h with h
          rw [Nat.zero_mul, List.drop_zero, h]
      | succ n =>
          rw [ih h, List.drop_drop, Nat.succ_mul, Nat.add_comm]

/-- Every batch but the last one is full. -/
theorem length_batch {α : Type} {xs : List α} {n : Nat} {batch : List α}
    (h : (b.batches xs)[n]? = some batch) (hn : n + 1 < b.batchCount xs.length) :
    batch.length = b.size := by
  have hsize : (n + 2) * b.size ≤ xs.length + b.size - 1 := by
    rw [batchCount, Nat.lt_iff_add_one_le, Nat.le_div_iff_mul_le b.size_pos] at hn
    exact hn
  have hpos := b.size_pos
  rw [b.getElem?_batches xs h, List.length_take, List.length_drop]
  rw [Nat.add_mul] at hsize
  omega

/-! ## One batch after the other -/

/-- The pause before the request of a number, as it is recorded. -/
def pauseEvents (number : Nat) : List Event :=
  if 1 < number && b.pauseMillis != 0 then [.paused b.pauseMillis] else []

/-- The events of calls, the first of them with the given number. -/
def eventsFrom : Nat → List BatchCall → List Event
  | _, [] => []
  | number, c :: calls => b.pauseEvents number ++ (c.event :: eventsFrom (number + 1) calls)

/-- The events of calls from the first one on: a pause of some length stands between every two of them. -/
def events (calls : List BatchCall) : List Event :=
  if b.pauseMillis = 0 then calls.map BatchCall.event
  else (calls.map BatchCall.event).intersperse (.paused b.pauseMillis)

section Pause

variable {m : Type → Type} [Monad m]

/-- The pause before the request of a number. -/
def pauseBefore (pause : Nat → m Unit) (number : Nat) : ExceptT Error m Unit :=
  if 1 < number && b.pauseMillis != 0 then liftM (pause b.pauseMillis) else pure ()

end Pause

variable {σ : Type}

theorem embedFrom_cons (e : Embedder (StateM σ)) (pause : Nat → StateM σ Unit) (number : Nat)
    (texts : List String) (rest : List (List String)) :
    b.embedFrom e pause number (texts :: rest) = do
      b.pauseBefore pause number
      let vectors ← embedOne e number texts
      let others ← b.embedFrom e pause (number + 1) rest
      return vectors ++ others := by
  rw [embedFrom, pauseBefore]
  split
  · rfl
  · rfl

theorem records_pauseBefore (pause : Nat → StateM σ Unit) (number : Nat) (s : σ) :
    ∃ s', Records (b.pauseBefore pause number).run
      (b.pauseBefore (recordedPause pause) number).run s (.ok ()) (b.pauseEvents number) s' := by
  rw [pauseBefore, pauseBefore, pauseEvents]
  split
  · cases hrun : (pause b.pauseMillis).run s with
    | mk _ s' => exact ⟨s', (records_noting (fun _ => .paused b.pauseMillis) hrun).lift⟩
  · exact ⟨s, records_pure _ s⟩

/-- A request is recorded as it was answered, and goes on only if the answer fits. -/
theorem records_embedOne (e : Embedder (StateM σ)) (number : Nat) (texts : List String) (s : σ) :
    ∃ (c : BatchCall) (s' : σ), c.texts = texts ∧ c.Given e ∧
      (c.Fits ∧ Records (embedOne e number texts).run (embedOne e.recorded number texts).run s
          (.ok c.vectors) [c.event] s' ∨
        ¬ c.Fits ∧ Records (embedOne e number texts).run (embedOne e.recorded number texts).run s
          (.error (c.failure number)) [c.event] s') := by
  cases hrun : (e.embedBatch texts).run.run s with
  | mk answer s' =>
      have hcall := records_noting (.embeddedBatch texts) hrun
      refine ⟨⟨texts, answer⟩, s', rfl, ⟨s, by rw [hrun]⟩, ?_⟩
      cases answer with
      | error cause =>
          refine Or.inr ⟨?_, Records.bind_error hcall⟩
          rintro ⟨vectors, hanswer, _⟩
          cases hanswer
      | ok vectors =>
          by_cases hlength : vectors.length = texts.length
          · refine Or.inl ⟨⟨vectors, rfl, hlength⟩, Records.bind_ok_silent hcall ?_⟩
            rw [if_pos hlength, if_pos hlength]
            exact records_pure _ s'
          · refine Or.inr ⟨?_, Records.bind_ok_silent hcall ?_⟩
            · rintro ⟨others, hanswer, hothers⟩
              cases hanswer
              exact hlength hothers
            · rw [if_neg hlength, if_neg hlength]
              exact records_pure _ s'

end Batching

/--
A run over batches, the first of them with the given number: the calls that are made, and what comes of
them. Every batch is sent only after those before it were answered with as many vectors as texts.
-/
inductive BatchRun :
    Nat → List (List String) → List BatchCall → Except Error (List (List Single)) → Prop
  | done (number : Nat) : BatchRun number [] [] (.ok [])
  | stopped {number : Nat} {c : BatchCall} {rest : List (List String)} (misfit : ¬ c.Fits) :
      BatchRun number (c.texts :: rest) [c] (.error (c.failure number))
  | fitted {number : Nat} {c : BatchCall} {rest : List (List String)} {calls : List BatchCall}
      {result : Except Error (List (List Single))} (fits : c.Fits)
      (next : BatchRun (number + 1) rest calls result) :
      BatchRun number (c.texts :: rest) (c :: calls) (result.map (c.vectors ++ ·))

/-- **Whatever the embedder answers, its calls are those of a run,** and they are recorded in order. -/
theorem Batching.records_embedFrom {σ : Type} (b : Batching) (e : Embedder (StateM σ))
    (pause : Nat → StateM σ Unit) (batches : List (List String)) (number : Nat) (s : σ) :
    ∃ calls result s', Records (b.embedFrom e pause number batches).run
      (b.embedFrom e.recorded (recordedPause pause) number batches).run s result
      (b.eventsFrom number calls) s' ∧ BatchRun number batches calls result ∧
      ∀ c ∈ calls, c.Given e := by
  induction batches generalizing number s with
  | nil =>
      exact ⟨[], .ok [], s, records_pure _ s, .done number, fun c hc => absurd hc List.not_mem_nil⟩
  | cons texts rest ih =>
      rw [embedFrom_cons, embedFrom_cons]
      obtain ⟨s₁, hpause⟩ := b.records_pauseBefore pause number s
      obtain ⟨c, s₂, rfl, hgiven, hcall⟩ := records_embedOne e number texts s₁
      rcases hcall with ⟨hfits, hcall⟩ | ⟨hmisfit, hcall⟩
      · obtain ⟨calls, result, s', hrest, hrun, hothers⟩ := ih (number + 1) s₂
        refine ⟨c :: calls, result.map (c.vectors ++ ·), s', ?_, .fitted hfits hrun,
          List.forall_mem_cons.mpr ⟨hgiven, hothers⟩⟩
        refine hpause.bind_ok (hcall.bind_ok ?_)
        cases result with
        | error cause => exact hrest.bind_error
        | ok vectors =>
            exact hrest.bind_ok_silent (records_pure _ s')
      · refine ⟨[c], .error (c.failure number), s₂, ?_, .stopped hmisfit,
          List.forall_mem_singleton.mpr hgiven⟩
        exact hpause.bind_ok hcall.bind_error

/-! ## What a run shows -/

namespace BatchRun

variable {number : Nat} {batches : List (List String)} {calls : List BatchCall}
  {result : Except Error (List (List Single))}

/-- The batches are sent in order, and none is left out before the last that is sent. -/
theorem texts_prefix (h : BatchRun number batches calls result) :
    calls.map (·.texts) <+: batches := by
  induction h with
  | done => exact List.prefix_refl []
  | stopped => exact (List.prefix_cons_inj _).mpr List.nil_prefix
  | fitted _ _ ih => exact (List.prefix_cons_inj _).mpr ih

/-- Only the last call can be one that does not fit. -/
theorem fits_of_mem_dropLast (h : BatchRun number batches calls result) :
    ∀ c ∈ calls.dropLast, c.Fits := by
  induction h with
  | done => exact fun c hc => absurd hc List.not_mem_nil
  | stopped => exact fun c hc => absurd hc List.not_mem_nil
  | @fitted _ first _ calls _ fits _ ih =>
      cases calls with
      | nil => exact fun c hc => absurd hc List.not_mem_nil
      | cons next calls => exact List.forall_mem_cons.mpr ⟨fits, ih⟩

/-- A call that does not fit ends the run, and is what is reported. -/
theorem result_of_misfit (h : BatchRun number batches calls result) {c : BatchCall}
    (hlast : calls.getLast? = some c) (hmisfit : ¬ c.Fits) :
    result = .error (c.failure (number + calls.length - 1)) := by
  induction h with
  | done => cases hlast
  | stopped =>
      cases hlast
      rw [List.length_singleton, Nat.add_sub_cancel]
      rfl
  | @fitted number first _ calls _ fits _ ih =>
      cases calls with
      | nil =>
          cases hlast
          exact absurd fits hmisfit
      | cons next calls =>
          rw [List.getLast?_cons_cons] at hlast
          have hnumber : number + (first :: next :: calls).length - 1
              = number + 1 + (next :: calls).length - 1 := by
            simp only [List.length_cons]
            omega
          rw [ih hlast, hnumber]
          rfl

/-- **If every call fits, every batch is sent,** and the vectors come out in order. -/
theorem of_fits (h : BatchRun number batches calls result) (hfits : ∀ c ∈ calls, c.Fits) :
    calls.map (·.texts) = batches ∧ result = .ok (calls.flatMap (·.vectors)) := by
  induction h with
  | done => exact ⟨rfl, rfl⟩
  | @stopped _ c _ misfit => exact absurd (hfits c (List.mem_singleton_self c)) misfit
  | fitted _ _ ih =>
      obtain ⟨hbatches, rfl⟩ := ih (List.forall_mem_cons.mp hfits).2
      exact ⟨by rw [List.map_cons, hbatches], rfl⟩

/-- Vectors come out only if every call fits. -/
theorem fits_of_ok {vectors : List (List Single)} (h : BatchRun number batches calls (.ok vectors)) :
    ∀ c ∈ calls, c.Fits := by
  generalize hresult : Except.ok vectors = result at h
  induction h generalizing vectors with
  | done => exact fun c hc => absurd hc List.not_mem_nil
  | stopped => cases hresult
  | @fitted _ _ _ _ result fits _ ih =>
      cases result with
      | error cause => cases hresult
      | ok others => exact List.forall_mem_cons.mpr ⟨fits, ih rfl⟩

end BatchRun

namespace Batching

variable (b : Batching)

theorem eventsFrom_of_noPause (h : b.pauseMillis = 0) (number : Nat) (calls : List BatchCall) :
    b.eventsFrom number calls = calls.map BatchCall.event := by
  induction calls generalizing number with
  | nil => rfl
  | cons c calls ih =>
      have hnone : b.pauseEvents number = [] := by
        rw [pauseEvents, h, bne_self_eq_false, Bool.and_false]
        rfl
      rw [eventsFrom, hnone, List.nil_append, ih, List.map_cons]

theorem eventsFrom_of_pause (h : b.pauseMillis ≠ 0) {number : Nat} (hnumber : 1 ≤ number)
    (c : BatchCall) (calls : List BatchCall) : b.eventsFrom number (c :: calls)
      = b.pauseEvents number
        ++ ((c :: calls).map BatchCall.event).intersperse (.paused b.pauseMillis) := by
  induction calls generalizing number c with
  | nil => rfl
  | cons next calls ih =>
      have hpause : b.pauseEvents (number + 1) = [.paused b.pauseMillis] := by
        rw [pauseEvents, if_pos]
        rw [Bool.and_eq_true, decide_eq_true_eq, bne_iff_ne]
        exact ⟨by omega, h⟩
      rw [eventsFrom, ih (Nat.le_succ_of_le hnumber), hpause]
      rfl

/-- A pause stands between every two calls, and nowhere else. -/
theorem eventsFrom_one (calls : List BatchCall) : b.eventsFrom 1 calls = b.events calls := by
  rw [events]
  by_cases h : b.pauseMillis = 0
  · rw [if_pos h, b.eventsFrom_of_noPause h]
  · rw [if_neg h]
    cases calls with
    | nil => rfl
    | cons c calls => exact b.eventsFrom_of_pause h (Nat.le_refl 1) c calls

/-- The calls of a build, as far as they go. -/
structure SentFor (texts : List String) (calls : List BatchCall) : Prop where
  /-- The texts are sent in order, from the first one on. -/
  inOrder : calls.flatMap (·.texts) <+: texts
  /-- No request is empty or too long. -/
  portion : ∀ c ∈ calls, c.texts ≠ [] ∧ c.texts.length ≤ b.size
  /-- Every request is full that is not the last one for the whole list. -/
  full : ∀ n c, calls[n]? = some c → n + 1 < b.batchCount texts.length → c.texts.length = b.size
  /-- Every request before the last one was answered with one vector for each text. -/
  answered : ∀ c ∈ calls.dropLast, c.Fits

theorem sentFor_of_batchRun {texts : List String} {calls : List BatchCall}
    {result : Except Error (List (List Single))}
    (h : BatchRun 1 (b.batches texts) calls result) : b.SentFor texts calls := by
  obtain ⟨others, hothers⟩ := h.texts_prefix
  refine ⟨⟨others.flatten, ?_⟩, ?_, ?_, h.fits_of_mem_dropLast⟩
  · rw [List.flatMap_def, ← List.flatten_append, hothers, flatten_batches]
  · intro c hc
    refine b.length_of_mem_batches texts c.texts (h.texts_prefix.subset ?_)
    exact List.mem_map_of_mem hc
  · intro n c hc hn
    have hmap : (calls.map (·.texts))[n]? = some c.texts := by rw [List.getElem?_map, hc]; rfl
    have hbatch : (b.batches texts)[n]? = some c.texts := by
      rw [← hothers, List.getElem?_append_left (List.getElem?_eq_some_iff.mp hmap).1, hmap]
    exact b.length_batch hbatch hn

/-- The matrix of the vectors, or what is reported of rows of several widths. -/
def stacked (vectors : List (List Single)) : Except Error Matrix :=
  (Matrix.ofRows vectors).mapError fun r => .embedding r.message

/-- A build is a run over all batches, whose vectors are then stacked. -/
theorem records_build_given {σ : Type} (e : Embedder (StateM σ)) (pause : Nat → StateM σ Unit)
    (texts : List String) (s : σ) : ∃ calls result s', Records (b.build e pause texts).run
      (b.build e.recorded (recordedPause pause) texts).run s (result.bind stacked) (b.events calls)
      s' ∧ BatchRun 1 (b.batches texts) calls result ∧ ∀ c ∈ calls, c.Given e := by
  obtain ⟨calls, result, s', hrecords, hrun⟩ := b.records_embedFrom e pause (b.batches texts) 1 s
  rw [b.eventsFrom_one] at hrecords
  refine ⟨calls, result, s', ?_, hrun⟩
  cases result with
  | error cause => exact hrecords.bind_error
  | ok vectors => exact hrecords.bind_ok_silent (records_pure (stacked vectors) s')

theorem records_build {σ : Type} (e : Embedder (StateM σ)) (pause : Nat → StateM σ Unit)
    (texts : List String) (s : σ) : ∃ calls result s', Records (b.build e pause texts).run
      (b.build e.recorded (recordedPause pause) texts).run s (result.bind stacked) (b.events calls)
      s' ∧ BatchRun 1 (b.batches texts) calls result := by
  obtain ⟨calls, result, s', hrecords, hrun, _⟩ := b.records_build_given e pause texts s
  exact ⟨calls, result, s', hrecords, hrun⟩

/-- **The row of a text is the vector that came back for it.** -/
theorem row_of_stacked {calls : List BatchCall} {texts : List String} {m : Matrix}
    (hfits : ∀ c ∈ calls, c.Fits) (htexts : calls.flatMap (·.texts) = texts)
    (h : stacked (calls.flatMap (·.vectors)) = .ok m) : m.rows = texts.length ∧
      ∀ i text, texts[i]? = some text →
        (calls.flatMap BatchCall.answered)[i]? = some (text, m.row i) := by
  cases hrows : Matrix.ofRows (calls.flatMap (·.vectors)) with
  | error r => rw [stacked, hrows] at h; cases h
  | ok found =>
      rw [stacked, hrows] at h
      cases h
      have hlength : m.rows = texts.length := by
        rw [(Matrix.of_ofRows hrows).1, BatchCall.length_flatMap_vectors hfits, htexts]
      refine ⟨hlength, ?_⟩
      intro i text hi
      rw [BatchCall.flatMap_answered hfits, htexts, ← Matrix.vectors_of_ofRows hrows,
        List.getElem?_zip_eq_some]
      refine ⟨hi, m.getElem?_vectors ?_⟩
      rw [hlength]
      exact (List.getElem?_eq_some_iff.mp hi).1

end Batching

/-- Chunks can be paired with as many rows. -/
theorem KnowledgeIndex.pair_of_rows {chunks : List Chunk} {m : Matrix}
    (h : m.rows = chunks.length) : pair chunks m = .ok ⟨chunks, m, h.symm⟩ := by
  rw [pair, dif_pos h.symm]

/-- **Embedding chunks fails only as building their matrix does.** -/
theorem IndexBuilder.run_embed_of_build {σ : Type} (builder : IndexBuilder (StateM σ))
    (chunks : List Chunk) (s : σ) : ∃ embedded s', (builder.embed chunks).run.run s = (embedded, s') ∧
      (builder.batching.build builder.embedder builder.services.pause
        (chunks.map (·.text))).run.run s = (embedded.map (·.matrix), s') := by
  rw [IndexBuilder.embed, run_bind]
  cases hbuild : (builder.batching.build builder.embedder builder.services.pause
      (chunks.map (·.text))).run.run s with
  | mk result s' =>
      cases result with
      | error cause => exact ⟨.error cause, s', rfl, rfl⟩
      | ok m =>
          obtain ⟨_, _, _, _, hrows⟩ := Batching.calls_of_build hbuild
          rw [List.length_map] at hrows
          refine ⟨.ok ⟨chunks, m, hrows.symm⟩, s', ?_, rfl⟩
          dsimp only
          rw [KnowledgeIndex.pair_of_rows hrows]
          rfl

namespace Batching

variable (b : Batching)

end Batching

end Grounded
