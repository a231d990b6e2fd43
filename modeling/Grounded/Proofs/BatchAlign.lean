import Grounded.Backend.Batch
import Grounded.Proofs.Running

/-!
# Texts and their vectors

Texts go to the embedder in batches and come back as vectors, which are stacked to a matrix. `Calls` is
the record of the requests of such a run: each with the texts that were sent and the vectors that came
back, each starting in the state that the one before left. Nothing is assumed of the embedder, so that
an answer may depend on everything that happened before it. What is proved is that the vectors of the
record, read in order, are the rows of the matrix, and its texts the texts that were asked for.
-/

namespace Grounded

/-! ## Rows -/

namespace Matrix

theorem length_of_firstRagged? {dims row : Nat} {vectors : List (List Single)}
    (h : firstRagged? dims row vectors = none) : ∀ v ∈ vectors, v.length = dims := by
  induction vectors generalizing row with
  | nil => exact fun v hv => absurd hv List.not_mem_nil
  | cons w ws ih =>
      rw [firstRagged?] at h
      split at h
      · rename_i hw
        exact List.forall_mem_cons.mpr ⟨hw, ih h⟩
      · cases h

/-- The matrix of rows that are all of one width. -/
theorem of_ofRows {vectors : List (List Single)} {m : Matrix} (h : ofRows vectors = .ok m) :
    m.rows = vectors.length ∧ (∀ v ∈ vectors, v.length = m.dims) ∧
      m.data.toList = vectors.flatten := by
  unfold ofRows at h
  dsimp only at h
  split at h
  · cases h
  · rename_i hragged
    cases h
    exact ⟨rfl, length_of_firstRagged? hragged, rfl⟩

theorem length_vectors (m : Matrix) : m.vectors.length = m.rows := by
  rw [vectors, List.length_map, List.length_range]

theorem getElem?_vectors (m : Matrix) {i : Nat} (h : i < m.rows) :
    m.vectors[i]? = some (m.row i) := by
  rw [vectors, List.getElem?_map, List.getElem?_range h]
  rfl

/-- A stretch of the flattened rows is a row. -/
theorem take_drop_flatten {dims : Nat} {vectors : List (List Single)}
    (hlen : ∀ v ∈ vectors, v.length = dims) {i : Nat} {v : List Single}
    (hi : vectors[i]? = some v) : (vectors.flatten.drop (i * dims)).take dims = v := by
  induction vectors generalizing i with
  | nil => cases hi
  | cons w ws ih =>
      obtain ⟨hw, hws⟩ := List.forall_mem_cons.mp hlen
      rw [List.flatten_cons]
      cases i with
      | zero =>
          injection hi with hi
          rw [Nat.zero_mul, List.drop_zero, List.take_left' hw, hi]
      -- the rows before it are skipped together with the first one
      | succ i =>
          have hsum : (i + 1) * dims = w.length + i * dims := by
            rw [Nat.succ_mul, hw, Nat.add_comm]
          rw [hsum, List.drop_append, List.drop_of_length_le (Nat.le_add_right ..), List.nil_append,
            Nat.add_sub_cancel_left]
          exact ih hws hi

theorem row_eq (m : Matrix) (i : Nat) : m.row i = (m.data.toList.drop (i * m.dims)).take m.dims := by
  have hwidth : (i + 1) * m.dims - i * m.dims = m.dims := by
    rw [Nat.succ_mul, Nat.add_sub_cancel_left]
  rw [row, Array.toList_extract, List.extract_eq_take_drop, hwidth]

/-- The rows of a matrix are what its numbers are cut into. -/
theorem vectors_eq {m : Matrix} {vectors : List (List Single)} (hrows : m.rows = vectors.length)
    (hlen : ∀ v ∈ vectors, v.length = m.dims) (hdata : m.data.toList = vectors.flatten) :
    m.vectors = vectors := by
  refine List.ext_getElem ?_ ?_
  · rw [length_vectors, hrows]
  · intro i _ hi
    simp only [Matrix.vectors, List.getElem_map, List.getElem_range, row_eq, hdata]
    exact take_drop_flatten hlen (List.getElem?_eq_getElem hi)

/-- **The rows of a matrix are the vectors it was made of.** -/
theorem vectors_of_ofRows {vectors : List (List Single)} {m : Matrix} (h : ofRows vectors = .ok m) :
    m.vectors = vectors := by
  obtain ⟨hrows, hlen, hdata⟩ := of_ofRows h
  exact vectors_eq hrows hlen hdata

end Matrix

/-! ## Batches -/

namespace Batching

/-- **Batches are cut without loss:** put together again, they are the list. -/
theorem flatten_batches {α : Type} (b : Batching) (xs : List α) : (b.batches xs).flatten = xs := by
  fun_induction b.batches xs with
  | case1 => rfl
  | case2 x rest ih => rw [List.flatten_cons, ih, List.take_append_drop]

/-- No batch is empty or too long. -/
theorem length_of_mem_batches {α : Type} (b : Batching) (xs : List α) :
    ∀ batch ∈ b.batches xs, batch ≠ [] ∧ batch.length ≤ b.size := by
  fun_induction b.batches xs with
  | case1 => exact fun batch hb => absurd hb List.not_mem_nil
  | case2 x rest ih =>
      refine List.forall_mem_cons.mpr ⟨⟨?_, List.length_take_le ..⟩, ih⟩
      intro hnil
      have hpos := b.size_pos
      rcases List.take_eq_nil_iff.mp hnil with hz | hnone
      · omega
      · cases hnone

end Batching

/-! ## The record of the requests -/

/-- A request that went well: the texts that were sent, and the vectors that came back. -/
structure Call where
  texts : List String
  vectors : List (List Single)

namespace Call

/-- Each text with the vector at its position in the answer. -/
def answered (c : Call) : List (String × List Single) := c.texts.zip c.vectors

end Call

section Calls

variable {σ : Type}

/-- The state after the pause that comes before the request of a number. -/
def Batching.afterPause (b : Batching) (pause : Nat → StateM σ Unit) (number : Nat) (s : σ) : σ :=
  if 1 < number && b.pauseMillis != 0 then ((pause b.pauseMillis).run s).2 else s

/--
The requests that are made one after the other, the first of them with the given number: from each state
after the pause, the embedder answers with as many vectors as there are texts, and leaves the next state.
-/
inductive Calls (b : Batching) (e : Embedder (StateM σ)) (pause : Nat → StateM σ Unit) :
    Nat → σ → List Call → σ → Prop
  | done (number : Nat) (s : σ) : Calls b e pause number s [] s
  | call {number : Nat} {s s₁ s' : σ} {c : Call} {rest : List Call}
      (answer : (e.embedBatch c.texts).run.run (b.afterPause pause number s) = (.ok c.vectors, s₁))
      (length : c.vectors.length = c.texts.length) (next : Calls b e pause (number + 1) s₁ rest s') :
      Calls b e pause number s (c :: rest) s'

namespace Calls

variable {b : Batching} {e : Embedder (StateM σ)} {pause : Nat → StateM σ Unit}

theorem length_vectors {number : Nat} {s s' : σ} {calls : List Call}
    (h : Calls b e pause number s calls s') :
    (calls.flatMap (·.vectors)).length = (calls.flatMap (·.texts)).length := by
  induction h with
  | done => rfl
  | call answer length next ih =>
      rw [List.flatMap_cons, List.flatMap_cons, List.length_append, List.length_append, length, ih]

/-- **Every text is answered at its place,** in whatever batches the texts were sent. -/
theorem answered_eq {number : Nat} {s s' : σ} {calls : List Call}
    (h : Calls b e pause number s calls s') : calls.flatMap Call.answered
      = (calls.flatMap (·.texts)).zip (calls.flatMap (·.vectors)) := by
  induction h with
  | done => rfl
  | call answer length next ih =>
      rw [List.flatMap_cons, List.flatMap_cons, List.flatMap_cons, ih,
        List.zip_append length.symm]
      rfl

end Calls

end Calls

namespace Batching

variable {σ : Type} {b : Batching} {e : Embedder (StateM σ)} {pause : Nat → StateM σ Unit}

theorem of_embedOne {number : Nat} {texts : List String} {s s' : σ} {vectors : List (List Single)}
    (h : (embedOne e number texts).run.run s = (.ok vectors, s')) :
    (e.embedBatch texts).run.run s = (.ok vectors, s') ∧ vectors.length = texts.length := by
  obtain ⟨found, s₁, hx, hk⟩ := of_run_bind h
  split at hk
  · rename_i hlen
    cases hk
    exact ⟨hx, hlen⟩
  · cases hk

/-- **A run that went well made one request for each batch,** and its vectors are their answers. -/
theorem calls_of_embedFrom {batches : List (List String)} {number : Nat} {s s' : σ}
    {vectors : List (List Single)}
    (h : (b.embedFrom e pause number batches).run.run s = (.ok vectors, s')) :
    ∃ calls, Calls b e pause number s calls s' ∧ calls.map (·.texts) = batches ∧
      calls.flatMap (·.vectors) = vectors := by
  induction batches generalizing number s vectors with
  | nil =>
      cases h
      exact ⟨[], .done number _, rfl, rfl⟩
  | cons texts rest ih =>
      -- the pause cannot fail, so the request is the first step that can
      have hstart : (b.embedFrom e pause number (texts :: rest)).run.run s
          = (do let vectors ← embedOne e number texts
                return vectors ++ (← b.embedFrom e pause (number + 1) rest)
              : ExceptT Error (StateM σ) _).run.run (b.afterPause pause number s) := by
        rw [embedFrom, afterPause]
        split
        · rfl
        · rfl
      rw [hstart] at h
      obtain ⟨first, s₁, hone, hmore⟩ := of_run_bind h
      obtain ⟨others, s₂, hrest, hlast⟩ := of_run_bind hmore
      cases hlast
      obtain ⟨hanswer, hlen⟩ := of_embedOne hone
      obtain ⟨calls, hcalls, htexts, hvectors⟩ := ih hrest
      refine ⟨⟨texts, first⟩ :: calls, .call hanswer hlen hcalls, ?_, ?_⟩
      · rw [List.map_cons, htexts]
      · rw [List.flatMap_cons, hvectors]

/--
**The rows of a matrix that was built are the answers of the embedder,** in the order of the texts, and
the requests were sent in the order of the batches.
-/
theorem calls_of_build {texts : List String} {s s' : σ} {matrix : Matrix}
    (h : (b.build e pause texts).run.run s = (.ok matrix, s')) :
    ∃ calls, Calls b e pause 1 s calls s' ∧ calls.map (·.texts) = b.batches texts ∧
      calls.flatMap Call.answered = texts.zip matrix.vectors ∧ matrix.rows = texts.length := by
  obtain ⟨vectors, s₁, hall, hrows⟩ := of_run_bind h
  obtain ⟨calls, hcalls, htexts, hvectors⟩ := calls_of_embedFrom hall
  cases hmatrix : Matrix.ofRows vectors with
  | error r => rw [hmatrix] at hrows; cases hrows
  | ok found =>
      rw [hmatrix] at hrows
      cases hrows
      have hsent : calls.flatMap (·.texts) = texts := by
        rw [List.flatMap_def, htexts, flatten_batches]
      refine ⟨calls, hcalls, htexts, ?_, ?_⟩
      · rw [hcalls.answered_eq, hsent, hvectors, Matrix.vectors_of_ofRows hmatrix]
      · rw [(Matrix.of_ofRows hmatrix).1, ← hvectors, hcalls.length_vectors, hsent]

end Batching

end Grounded
