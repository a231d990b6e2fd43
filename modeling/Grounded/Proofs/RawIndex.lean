import Grounded.Index.Build
import Grounded.Proofs.NpyRoundTrip
import Grounded.Proofs.Running

/-!
# Indexes without their invariants

A matrix carries the proof that it has as many numbers as its shape says, an index the proof that it has
a row for every chunk. In memory there are only a shape, numbers and chunks. This module has values that
consist of nothing else, and the operations that make them, with the comparisons they make and no
others. Every one of them is shown to make what the operation on matrices and indexes makes, with the
proofs left out. So the invariants are not assumed of these values, they follow from how they are made.
-/

namespace Grounded

open Text

/-- A shape and numbers, of which nothing is known. -/
structure RawMatrix where
  rows : Nat
  dims : Nat
  data : Array Single
deriving DecidableEq

/-- Chunks and a matrix, of which nothing is known. -/
structure RawIndex where
  chunks : List Chunk
  matrix : RawMatrix
deriving DecidableEq

/-- The matrix without its proof. -/
def Matrix.erase (m : Matrix) : RawMatrix := ⟨m.rows, m.dims, m.data⟩

@[simp] theorem Matrix.erase_rows (m : Matrix) : m.erase.rows = m.rows := rfl

@[simp] theorem Matrix.erase_dims (m : Matrix) : m.erase.dims = m.dims := rfl

@[simp] theorem Matrix.erase_data (m : Matrix) : m.erase.data = m.data := rfl

/-- The index without its proofs. -/
def KnowledgeIndex.erase (i : KnowledgeIndex) : RawIndex := ⟨i.chunks, i.matrix.erase⟩

@[simp] theorem KnowledgeIndex.erase_chunks (i : KnowledgeIndex) : i.erase.chunks = i.chunks := rfl

@[simp] theorem KnowledgeIndex.erase_matrix (i : KnowledgeIndex) :
    i.erase.matrix = i.matrix.erase := rfl

namespace RawMatrix

/-- The matrix without rows. -/
def empty : RawMatrix := ⟨0, 0, #[]⟩

/-! ## Stacking rows -/

/-- Puts rows of one width behind the numbers, the first of them having the given number. -/
def stack (dims row : Nat) (data : Array Single) : List (List Single) →
    Except Matrix.Ragged (Array Single)
  | [] => .ok data
  | v :: vs =>
    if v.length ≠ dims then .error ⟨row, v.length, dims⟩ else stack dims (row + 1) (data ++ v) vs

/-- The matrix with these rows, as wide as the first one. -/
def ofRows (vectors : List (List Single)) : Except Matrix.Ragged RawMatrix := do
  let dims := (vectors.head?.map List.length).getD 0
  return ⟨vectors.length, dims, ← stack dims 0 #[] vectors⟩

theorem stack_eq (dims row : Nat) (data : Array Single) (vectors : List (List Single)) :
    stack dims row data vectors = match Matrix.firstRagged? dims row vectors with
      | some e => .error e
      | none => .ok (data ++ vectors.flatten) := by
  induction vectors generalizing row data with
  | nil => simp [stack, Matrix.firstRagged?]
  | cons v vs ih =>
      rw [stack, Matrix.firstRagged?]
      by_cases hv : v.length = dims
      · rw [if_neg (not_not_intro hv), if_pos hv, ih, List.flatten_cons]
        cases Matrix.firstRagged? dims (row + 1) vs with
        | some e => rfl
        | none =>
            have hdata : data ++ v ++ vs.flatten = data ++ (v ++ vs.flatten) := by
              rw [← Array.toList_inj, Array.toList_appendList, Array.toList_appendList,
                Array.toList_appendList, List.append_assoc]
            simp only [hdata]
      · rw [if_pos hv, if_neg hv]

/-- What a matrix of rows is, with its proof left out. -/
theorem erase_ofRows (vectors : List (List Single)) :
    (Matrix.ofRows vectors).map Matrix.erase
      = match Matrix.firstRagged? ((vectors.head?.map List.length).getD 0) 0 vectors with
        | some e => .error e
        | none => .ok ⟨vectors.length, (vectors.head?.map List.length).getD 0, vectors.flatten.toArray⟩ := by
  unfold Matrix.ofRows
  dsimp only
  split
  · rename_i e he
    rw [he]
    rfl
  · rename_i he
    simp only [he]
    rfl

/-- **Stacking finds the row that keeps vectors from being a matrix,** and stacks all others. -/
theorem ofRows_eq (vectors : List (List Single)) :
    ofRows vectors = (Matrix.ofRows vectors).map Matrix.erase := by
  rw [erase_ofRows, ofRows, stack_eq]
  cases Matrix.firstRagged? ((vectors.head?.map List.length).getD 0) 0 vectors with
  | some e => rfl
  | none =>
      have hdata : (#[] : Array Single) ++ vectors.flatten = vectors.flatten.toArray := by
        rw [← Array.toList_inj, Array.toList_appendList]
        rfl
      simp only [hdata]
      rfl

/-! ## Reading a file -/

/-- The product, unless it is too large for a machine word. -/
def checkedMul (a b : Nat) : Option Nat := if a * b < wordBound then some (a * b) else none

/-- The matrix of a file: the size of the shape is multiplied in machine words. -/
def read (bytes : List UInt8) : Except Npy.Fault RawMatrix := do
  let ((rows, dims), body) ← Npy.opened bytes
  match (checkedMul rows dims).bind (checkedMul · 4) with
  | none => throw (.tooLarge rows dims)
  | some expected =>
    if body.length ≠ expected then throw (.wrongSize expected rows dims body.length)
    return ⟨rows, dims, (Npy.singles body).toArray⟩

theorem checkedMul_eq (rows dims : Nat) : (checkedMul rows dims).bind (checkedMul · 4)
    = if wordBound ≤ rows * dims * 4 then none else some (rows * dims * 4) := by
  rw [checkedMul]
  by_cases h : wordBound ≤ rows * dims
  -- a product that does not fit makes the next one too large as well
  · rw [if_neg (Nat.not_lt.mpr h), if_pos (by omega)]
    rfl
  · rw [if_pos (Nat.lt_of_not_le h), Option.bind_some, checkedMul]
    by_cases h4 : wordBound ≤ rows * dims * 4
    · rw [if_neg (Nat.not_lt.mpr h4), if_pos h4]
    · rw [if_pos (Nat.lt_of_not_le h4), if_neg h4]

theorem read_of_opened {bytes body : List UInt8} {rows dims : Nat}
    (h : Npy.opened bytes = .ok ((rows, dims), body)) :
    read bytes = (Npy.ofShape rows dims body).map Matrix.erase := by
  rw [read, h]
  simp only [bind, Except.bind, checkedMul_eq]
  rw [Npy.ofShape]
  by_cases hbound : wordBound ≤ rows * dims * 4
  · rw [if_pos hbound, if_pos hbound]
    rfl
  · rw [if_neg hbound, if_neg hbound]
    by_cases hlen : body.length = rows * dims * 4
    · rw [dif_pos hlen]
      dsimp only
      rw [if_neg (not_not_intro hlen)]
      rfl
    · rw [dif_neg hlen]
      dsimp only
      rw [if_pos hlen]
      rfl

/-- **Reading in machine words makes the matrix that is read,** and fails where that fails. -/
theorem read_eq (bytes : List UInt8) : read bytes = (Npy.decode bytes).map Matrix.erase := by
  rw [Npy.decode_eq]
  cases h : Npy.opened bytes with
  | error fault =>
      rw [read, h]
      rfl
  | ok shape =>
      obtain ⟨⟨rows, dims⟩, body⟩ := shape
      exact read_of_opened h

end RawMatrix

/-! ## Making indexes -/

namespace RawIndex

/-- The index of chunks and rows, if there are as many of one as of the other. -/
def pair (chunks : List Chunk) (matrix : RawMatrix) : Except KnowledgeIndex.Misaligned RawIndex :=
  if chunks.length ≠ matrix.rows then .error ⟨chunks.length, matrix.rows⟩ else .ok ⟨chunks, matrix⟩

/-- The matrix in a file. -/
def loadMatrix (d : Disk) (path : String) : Except Error RawMatrix := do
  let bytes ← (d.read path).mapError .file
  (RawMatrix.read bytes.toList).mapError Npy.Fault.toError

/-- The index that is stored in a directory. -/
def load (d : Disk) (dir : String) : Except Error RawIndex := do
  let paths := IndexPaths.inDir dir
  if !d.exists? paths.chunks then throw (.indexMissing paths.chunks)
  if !d.exists? paths.embeddings then throw (.indexMissing paths.embeddings)
  let chunks ← KnowledgeIndex.loadChunks d paths.chunks
  let matrix ← loadMatrix d paths.embeddings
  (pair chunks matrix).mapError fun e => .indexCorrupt e.message

/-- The index of chunks, embedded. -/
def embed {m : Type → Type} [Monad m] (b : IndexBuilder m) (chunks : List Chunk) :
    ExceptT Error m RawIndex := do
  let vectors ← b.batching.embedAll b.embedder b.services.pause (chunks.map (·.text))
  let matrix ← ExceptT.mk (pure ((RawMatrix.ofRows vectors).mapError fun r => .embedding r.message))
  ExceptT.mk (pure ((pair chunks matrix).mapError fun e => .indexCorrupt e.message))

theorem pair_erase (chunks : List Chunk) (m : Matrix) :
    pair chunks m.erase = (KnowledgeIndex.pair chunks m).map KnowledgeIndex.erase := by
  rw [pair, KnowledgeIndex.pair, Matrix.erase_rows]
  by_cases h : chunks.length = m.rows
  · rw [if_neg (not_not_intro h), dif_pos h]
    rfl
  · rw [if_pos h, dif_neg h]
    rfl

theorem loadMatrix_eq (d : Disk) (path : String) :
    loadMatrix d path = (KnowledgeIndex.loadMatrix d path).map Matrix.erase := by
  rw [loadMatrix, KnowledgeIndex.loadMatrix]
  cases d.read path with
  | error e => rfl
  | ok bytes =>
      simp only [mapError_ok, bind, Except.bind, RawMatrix.read_eq]
      cases Npy.decode bytes.toList with
      | error fault => rfl
      | ok m => rfl

/-- **Loading makes the index that is loaded.** -/
theorem load_eq (d : Disk) (dir : String) :
    load d dir = (KnowledgeIndex.load d dir).map KnowledgeIndex.erase := by
  rw [load, KnowledgeIndex.load]
  dsimp only
  cases d.exists? (IndexPaths.inDir dir).chunks with
  | false => rfl
  | true =>
      cases d.exists? (IndexPaths.inDir dir).embeddings with
      | false => rfl
      | true =>
          simp only [Bool.not_true, Bool.false_eq_true, if_false, bind, Except.bind, loadMatrix_eq]
          cases KnowledgeIndex.loadChunks d (IndexPaths.inDir dir).chunks with
          | error e => rfl
          | ok chunks =>
              cases KnowledgeIndex.loadMatrix d (IndexPaths.inDir dir).embeddings with
              | error e => rfl
              | ok m =>
                  simp only [Except.map, pair_erase]
                  cases KnowledgeIndex.pair chunks m with
                  | error e => rfl
                  | ok i => rfl

/-- **Embedding makes the index that is embedded,** from the same requests. -/
theorem run_embed {σ : Type} (b : IndexBuilder (StateM σ)) (chunks : List Chunk) (s : σ) :
    (embed b chunks).run.run s = match (b.embed chunks).run.run s with
      | (r, s') => (r.map KnowledgeIndex.erase, s') := by
  -- the requests are the same; only what is made of the answers differs
  rw [embed, IndexBuilder.embed, Batching.build, bind_assoc, run_bind, run_bind]
  cases (b.batching.embedAll b.embedder b.services.pause (chunks.map (·.text))).run.run s with
  | mk r s' =>
      cases r with
      | error e => rfl
      | ok vectors =>
          dsimp only
          rw [RawMatrix.ofRows_eq]
          cases Matrix.ofRows vectors with
          | error r => rfl
          | ok m =>
              have hpair : (pair chunks m.erase).mapError (fun e => Error.indexCorrupt e.message)
                  = ((KnowledgeIndex.pair chunks m).mapError
                      (fun e => Error.indexCorrupt e.message)).map KnowledgeIndex.erase := by
                rw [pair_erase]
                cases KnowledgeIndex.pair chunks m with
                | error e => rfl
                | ok i => rfl
              exact congrArg (·, s') hpair

end RawIndex

end Grounded
