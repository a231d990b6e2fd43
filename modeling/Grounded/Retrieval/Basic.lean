import Grounded.Index.Basic
import Grounded.Text.Find

/-!
# Retrieval

Every chunk is scored by the dot product of its row with the query. The best ones are kept, and of
these the ones above a threshold; what is kept becomes the context of a prompt.
-/

namespace Grounded

/-- A retrieved chunk with its score. -/
structure Passage where
  chunk : Chunk
  score : Single
deriving DecidableEq, Repr

namespace Passage

/-- The provenance label of the passage. -/
def label (p : Passage) : String := p.chunk.label

/-- The passage as a block of a prompt. -/
def block (p : Passage) : String := "[Source: " ++ p.label ++ "]\n" ++ p.chunk.text

/-- What stands between the blocks of a prompt. -/
def separator : String := "\n\n---\n\n"

/-- The blocks of passages in the order given. -/
def context (passages : List Passage) : String := separator.intercalate (passages.map block)

end Passage

namespace KnowledgeIndex

/-- Every chunk with its score, in the order of the index. -/
def scored (i : KnowledgeIndex) (query : List Single) : List Passage :=
  List.zipWith Passage.mk i.chunks (i.matrix.dot query)

end KnowledgeIndex

/-- The passages with finite scores, the best first; equal scores stay in order. -/
def rank (passages : List Passage) : List Passage :=
  (passages.filter (·.score.isFinite)).mergeSort fun a b => b.score.rank ≤ a.score.rank

/--
The best `topK` passages for a query, without those that do not score above `minScore`. There are none
without an index, and none for a query that is not as wide as the index.
-/
def retrieve (index : Option KnowledgeIndex) (query : List Single) (topK : Nat) (minScore : Single) :
    List Passage :=
  match index with
  | none => []
  | some i =>
    if i.isEmpty || query.length != i.matrix.dims then []
    else ((rank (i.scored query)).take topK).filter (·.score.gt minScore)

end Grounded
