import Grounded.Chat.Message
import Grounded.Error

/-!
# Model backends

An embedder turns texts into vectors, a generator continues a conversation. Both act in a monad of their
own, so that the same code runs against a server and against recorded answers.
-/

namespace Grounded

/-- A model that turns texts into vectors. -/
structure Embedder (m : Type → Type) where
  /-- The name of the model. -/
  model : String
  /-- The vector of a text. -/
  embed : String → ExceptT Error m (List Single)
  /-- The vectors of several texts in one request, in the order of the texts. -/
  embedBatch : List String → ExceptT Error m (List (List Single))

/-- What bounds the answer of a generator. -/
structure GenerationBounds where
  maxTokens : Nat
  temperature : Single
deriving DecidableEq, Repr

/-- A model that continues conversations. -/
structure Generator (m : Type → Type) where
  /-- The name of the model. -/
  model : String
  /-- The next message of the conversation. -/
  generate : List ChatMessage → GenerationBounds → ExceptT Error m String

/-- The models that question answering needs. -/
structure Backends (m : Type → Type) where
  embedder : Embedder m
  generator : Generator m

end Grounded
