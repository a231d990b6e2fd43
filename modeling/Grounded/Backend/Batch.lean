import Grounded.Backend.Basic
import Grounded.Index.Basic

/-!
# Embedding in batches

While an index is built, its chunks are embedded in batches of a fixed size, one batch after the other,
with a pause between two requests. Nothing is tried twice: the first request that fails ends the work,
and so does an answer with another number of vectors than there were texts. Row `i` of the matrix
belongs to chunk `i`.
-/

namespace Grounded

/-- The pace of embedding. -/
structure Batching where
  /-- The number of texts in a request; none counts as one. -/
  batchSize : Nat
  /-- The time between two requests, in milliseconds. -/
  pauseMillis : Nat
deriving DecidableEq, Repr

namespace Batching

/-- The number of texts in a full batch. -/
def size (b : Batching) : Nat := max b.batchSize 1

theorem size_pos (b : Batching) : 0 < b.size := Nat.le_max_right ..

/-- The number of requests for a number of texts. -/
def batchCount (b : Batching) (texts : Nat) : Nat := (texts + b.size - 1) / b.size

/-- A list cut into batches, all full but for the last. -/
def batches {α : Type} (b : Batching) (xs : List α) : List (List α) :=
  match xs with
  | [] => []
  | x :: rest => (x :: rest).take b.size :: batches b ((x :: rest).drop b.size)
termination_by xs.length
decreasing_by
  have := b.size_pos
  simp only [List.length_drop, List.length_cons]
  omega

variable {m : Type → Type} [Monad m]

/-- The vectors of one batch, with the number of the batch. -/
def embedOne (e : Embedder m) (number : Nat) (texts : List String) :
    ExceptT Error m (List (List Single)) := do
  let vectors ← e.embedBatch texts
  if vectors.length = texts.length then return vectors
  else
    throw (.embedding
      s!"Batch {number} returned {vectors.length} vectors for {texts.length} texts")

/-- The vectors of all batches from the one with the given number on. -/
def embedFrom (b : Batching) (e : Embedder m) (pause : Nat → m Unit) (number : Nat) :
    List (List String) → ExceptT Error m (List (List Single))
  | [] => return []
  | texts :: rest => do
    if 1 < number && b.pauseMillis != 0 then pause b.pauseMillis
    let vectors ← embedOne e number texts
    return vectors ++ (← embedFrom b e pause (number + 1) rest)

/-- The vectors of texts, batch by batch. -/
def embedAll (b : Batching) (e : Embedder m) (pause : Nat → m Unit) (texts : List String) :
    ExceptT Error m (List (List Single)) :=
  b.embedFrom e pause 1 (b.batches texts)

/-- The matrix of texts, with one row for each. -/
def build (b : Batching) (e : Embedder m) (pause : Nat → m Unit) (texts : List String) :
    ExceptT Error m Matrix := do
  let vectors ← b.embedAll e pause texts
  ExceptT.mk (pure ((Matrix.ofRows vectors).mapError fun r => .embedding r.message))

end Batching

end Grounded
