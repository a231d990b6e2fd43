import Grounded.Backend.Client

/-!
# Embeddings from a server

A server answers a list of texts with a list of entries, each with an index. The entries are put in the
order of their indexes; there have to be as many as there are texts.
-/

namespace Grounded

/-- An entry of an answer. -/
structure EmbeddingEntry where
  index : Nat
  vector : List Single
deriving DecidableEq, Repr

namespace EmbeddingEntry

/-- The entry of a record. -/
def ofJson? (j : Json) : Option EmbeddingEntry := do
  match ← j.fields? ["index", "object", "embedding"] with
  | [index, object, vector] =>
    let index ← (← index).nat? Text.halfWordBound
    let _ ← (← object).text?
    let vector ← (← (← vector).elements?).mapM Json.single?
    some ⟨index, vector⟩
  | _ => none

/-- The entries of an answer. -/
def listOfJson? (j : Json) : Option (List EmbeddingEntry) := do
  match ← j.fields? ["object", "model", "data", "usage"] with
  | [object, model, data, usage] =>
    let _ ← (← object).text?
    let _ ← (← model).text?
    let entries ← (← (← data).elements?).mapM ofJson?
    match ← (← usage).fields? ["prompt_tokens", "total_tokens"] with
    | [prompt, total] =>
      let _ ← (← prompt).nat? Text.halfWordBound
      let _ ← (← total).nat? Text.halfWordBound
      some entries
    | _ => none
  | _ => none

/-- The vectors of entries by their indexes; entries of one index stay in order. -/
def inOrder (entries : List EmbeddingEntry) : List (List Single) :=
  (entries.mergeSort fun a b => a.index ≤ b.index).map (·.vector)

/-- The vectors for a number of texts. -/
def vectors (count : Nat) (entries : List EmbeddingEntry) : Except Error (List (List Single)) :=
  if entries.length = count then .ok (inOrder entries)
  else .error (.embedding s!"Expected {count} embeddings, got {entries.length}")

end EmbeddingEntry

namespace BackendClient

variable {m : Type → Type} [Monad m]

/-- The request for the vectors of texts. -/
def embeddingRequest (model : String) (texts : List String) : Json :=
  Json.ofFields [("model", Json.ofText model), ("input", .array (texts.map Json.ofText))]

/-- The error of a request for vectors. -/
def embeddingError (e : ClientError) : Error := .backend ("Embedding API error: " ++ e.message)

/-- The vectors of texts, in order. Nothing is asked if there are no texts. -/
def embedBatch (c : BackendClient m) (model : String) (texts : List String) :
    ExceptT Error m (List (List Single)) :=
  if texts.isEmpty then return []
  else do
    let entries ← (c.post "/embeddings" (embeddingRequest model texts)
      EmbeddingEntry.listOfJson?).adapt embeddingError
    ExceptT.mk (pure (EmbeddingEntry.vectors texts.length entries))

/-- The embedder that asks the server. -/
def embedder (c : BackendClient m) (model : String) : Embedder m where
  model := model
  embed text := do
    match ← c.embedBatch model [text] with
    | vector :: _ => return vector
    | [] => throw (.embedding "Empty embedding response")
  embedBatch := c.embedBatch model

end BackendClient

end Grounded
