import Grounded.Backend.Embedding

/-!
# Answers from a server

A server continues a conversation in one or more ways; the first one counts.
-/

namespace Grounded.BackendClient

variable {m : Type → Type} [Monad m]

/-- The number of a single; none of those that are not finite. -/
def temperatureJson (x : Single) : Json := if x.isFinite then Json.ofSingle x else .null

/-- The request for an answer. -/
def completionRequest (model : String) (messages : List ChatMessage) (bounds : GenerationBounds) :
    Json :=
  Json.ofFields
    [("model", Json.ofText model), ("messages", ChatMessage.listToJson messages),
     ("temperature", temperatureJson bounds.temperature),
     ("max_tokens", Json.ofNat bounds.maxTokens)]

/-- The roles that the author of an answer may have. -/
def answerRoles : List String := ["system", "user", "assistant", "tool", "function"]

/-- The text of a choice, if it has one. -/
def choiceText? (j : Json) : Option (Option String) := do
  match ← j.fields? ["index", "message"] with
  | [index, message] =>
    let _ ← (← index).nat? Text.halfWordBound
    match ← (← message).fields? ["role", "content"] with
    | [role, content] =>
      let role ← (← role).constant?
      if answerRoles.contains role then optionalText? content else none
    | _ => none
  | _ => none

/-- The texts of the choices in an answer. -/
def choices? (j : Json) : Option (List (Option String)) := do
  match ← j.fields? ["id", "object", "created", "model", "choices"] with
  | [id, object, created, model, choices] =>
    let _ ← (← id).text?
    let _ ← (← object).text?
    let _ ← (← created).nat? Text.halfWordBound
    let _ ← (← model).text?
    (← (← choices).elements?).mapM choiceText?
  | _ => none

/-- The error of a request for an answer. -/
def completionError (e : ClientError) : Error := .backend ("Chat API error: " ++ e.message)

/-- The answer of a server to a conversation. -/
def complete (c : BackendClient m) (model : String) (messages : List ChatMessage)
    (bounds : GenerationBounds) : ExceptT Error m String := do
  let choices ← (c.post "/chat/completions" (completionRequest model messages bounds)
    choices?).adapt completionError
  match choices.head?.join with
  | some text => return text
  | none => throw (.generation "Empty response from model")

/-- The generator that asks the server. -/
def generator (c : BackendClient m) (model : String) : Generator m where
  model := model
  generate := c.complete model

/-- Both backends of one server, as settings describe them. -/
def backends (c : BackendClient m) (s : Settings) : Backends m :=
  ⟨c.embedder s.embedding.model, c.generator s.generation.model⟩

end Grounded.BackendClient
