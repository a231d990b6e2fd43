import Grounded.Index.Manifest
import Grounded.Index.Matrix

/-!
# The knowledge index

An index is a list of chunks with one row of embeddings for each, in the same order.
-/

namespace Grounded

/-- Chunks with their embeddings, row by row. -/
structure KnowledgeIndex where
  chunks : List Chunk
  matrix : Matrix
  aligned : chunks.length = matrix.rows
deriving DecidableEq

namespace KnowledgeIndex

/-- A number of chunks that is not the number of rows. -/
structure Misaligned where
  chunks : Nat
  rows : Nat
deriving DecidableEq, Repr

/-- The text shown for it. -/
def Misaligned.message (e : Misaligned) : String := s!"{e.chunks} chunks but {e.rows} embedding rows"

/-- The index of chunks and rows, if there are as many of one as of the other. -/
def pair (chunks : List Chunk) (matrix : Matrix) : Except Misaligned KnowledgeIndex :=
  if h : chunks.length = matrix.rows then .ok ⟨chunks, matrix, h⟩
  else .error ⟨chunks.length, matrix.rows⟩

/-- The number of chunks. -/
def size (i : KnowledgeIndex) : Nat := i.chunks.length

/-- Whether there are no chunks. -/
def isEmpty (i : KnowledgeIndex) : Bool := i.chunks.isEmpty

/-- The manifest of the index, as built with a model at a time. -/
def manifest (i : KnowledgeIndex) (model : String) (builtAt : Instant) : Manifest where
  builtAt := builtAt
  embeddingModel := model
  chunkCount := i.size
  dimensions := i.matrix.dims
  byKind := Manifest.countKinds i.chunks

end KnowledgeIndex

end Grounded
