import Grounded.Backend.Completion
import Grounded.Config.Prompts
import Grounded.Index.Store
import Grounded.Retrieval.Basic

/-!
# Grounded answers

A question is answered from passages of the index. Several things can keep it from being answered: it is
blank or too long, the session has had its questions, something is not set up, a backend fails, or no
passage fits. `Engine.resolve` finds out which; every way that it can end has a reply for the user, and
what a backend said in an error never is part of that reply.

An engine holds no conversation. The history comes with every question.
-/

namespace Grounded

/-- How a question is resolved. -/
inductive Outcome where
  | emptyQuestion
  | tooLong (limit length : Nat)
  | sessionLimit
  | notConfigured
  | indexUnavailable
  | embeddingFailed (cause : Error)
  | noResults
  | generationFailed (cause : Error)
  | answered (text : String) (passages : List Passage)
deriving DecidableEq, Repr

namespace Outcome

/-- The passages that the reply is grounded on. -/
def passages : Outcome → List Passage
  | answered _ passages => passages
  | _ => []

/-- The variables of the reply to a question that is too long. -/
def lengthVariables (limit length : Nat) : Variables :=
  [("limit", toString limit), ("length", toString length)]

/-- The reply to a failure of a backend. -/
def failureReply (p : Prompts) (cause : Error) : String :=
  if cause.rateLimited then p.replies.rateLimited else p.replies.failure

/-- The text for the user. -/
def reply (p : Prompts) : Outcome → String
  | emptyQuestion => p.replies.emptyQuestion
  | tooLong limit length => p.render p.replies.tooLong (lengthVariables limit length)
  | sessionLimit => p.replies.sessionLimit
  | notConfigured => p.replies.notConfigured
  | indexUnavailable => p.replies.indexUnavailable
  | noResults => p.replies.noResults
  | embeddingFailed cause | generationFailed cause => failureReply p cause
  | answered text _ => text

end Outcome

/-- What answers questions. -/
structure Engine (m : Type → Type) where
  backends : Option (Backends m) := none
  index : Option KnowledgeIndex := none
  prompts : Prompts := {}
  limits : LimitSettings := {}
  retrieval : RetrievalSettings := {}
  generation : GenerationSettings := {}

namespace Engine

variable {m : Type → Type}

/-- The text of the liveness check. -/
def health : String := "ok"

/-- Whether there are backends. -/
def isConfigured (e : Engine m) : Bool := e.backends.isSome

/--
The engine that settings describe. Without a credential it has no backends, and without an index that can
be loaded it has none.
-/
def ofSettings [Monad m] (s : Settings) (d : Disk) (env : Environment) (transport : Transport m) :
    Except Error (Engine m) := do
  let prompts ← Prompts.load d env s.prompts.customDir s.prompts.bindings
  let backends := (s.apiKey? env).map fun key =>
    (BackendClient.ofSettings s.backend key transport).backends s
  return {
    backends, prompts
    index := KnowledgeIndex.load? d (s.indexDir env)
    limits := s.limits, retrieval := s.retrieval, generation := s.generation }

/-- The reason why a question is not even looked at. -/
def refusal? (e : Engine m) (question : String) (history : List ChatMessage) : Option Outcome :=
  if (Text.trim question.toList).isEmpty then some .emptyQuestion
  else if e.limits.maxInputChars < question.length then
    some (.tooLong e.limits.maxInputChars question.length)
  else if e.limits.maxQuestionsPerSession ≤ history.countP (·.role == .assistant) then
    some .sessionLimit
  else none

/-- The turns of the history that the generator sees: the last ones, without any system message. -/
def recentTurns (e : Engine m) (history : List ChatMessage) : List ChatMessage :=
  (history.drop (history.length - e.limits.historyWindow)).filter (·.role != .system)

/-- The variables of the last turn. -/
def questionVariables (passages : List Passage) (question : String) : Variables :=
  [("context", Passage.context passages), ("question", question)]

/-- The conversation for the generator: the rules, the recent turns, and the question with its context. -/
def messages (e : Engine m) (passages : List Passage) (question : String)
    (history : List ChatMessage) : List ChatMessage :=
  ⟨.system, e.prompts.rag.system⟩ :: e.recentTurns history ++
    [⟨.user, e.prompts.render e.prompts.rag.user (questionVariables passages question)⟩]

/-- The bounds of an answer. -/
def bounds (e : Engine m) : GenerationBounds := ⟨e.generation.maxOutputTokens, e.generation.temperature⟩

/-- The passages for a query, as the settings want them. -/
def passages (e : Engine m) (query : List Single) : List Passage :=
  retrieve e.index query e.retrieval.topK e.retrieval.minScore

variable [Monad m]

/-- Asks the generator for an answer that is grounded on passages. -/
def generate (e : Engine m) (generator : Generator m) (passages : List Passage) (question : String)
    (history : List ChatMessage) : m Outcome := do
  match ← (generator.generate (e.messages passages question history) e.bounds).run with
  | .ok text => return .answered text passages
  | .error cause => return .generationFailed cause

/-- Resolves a question, given the conversation before it. -/
def resolve (e : Engine m) (question : String) (history : List ChatMessage) : m Outcome := do
  match e.refusal? question history, e.backends, e.index with
  | some outcome, _, _ => return outcome
  | none, none, _ => return .notConfigured
  | none, some _, none => return .indexUnavailable
  | none, some backends, some _ =>
    match ← (backends.embedder.embed question).run with
    | .error cause => return .embeddingFailed cause
    | .ok query =>
      match e.passages query with
      | [] => return .noResults
      | found => e.generate backends.generator found question history

/-- The reply to a question with the passages that it is grounded on. -/
def answerWithSources (e : Engine m) (question : String) (history : List ChatMessage) :
    m (String × List Passage) := do
  let outcome ← e.resolve question history
  return (outcome.reply e.prompts, outcome.passages)

/-- The reply to a question. -/
def answer (e : Engine m) (question : String) (history : List ChatMessage) : m String := do
  return (← e.answerWithSources question history).1

/-- The passages from which a question would be answered, with other bounds if they are given. -/
def search (e : Engine m) (question : String) (topK : Option Nat) (minScore : Option Single) :
    ExceptT Error m (List Passage) := do
  match e.backends with
  | none => throw (.config "No embedding backend configured")
  | some backends =>
    let query ← backends.embedder.embed question
    return retrieve e.index query (topK.getD e.retrieval.topK) (minScore.getD e.retrieval.minScore)

end Engine

end Grounded
