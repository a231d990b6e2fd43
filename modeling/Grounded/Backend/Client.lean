import Grounded.Backend.Basic
import Grounded.Config.Settings
import Grounded.Json.Read
import Grounded.Web.Exchange

/-!
# The client of a model server

A model server takes JSON by POST and answers JSON. The credential is sent as a bearer token. What goes
wrong comes in three forms: no answer at all, an answer that tells of an error, and an answer that
cannot be understood.
-/

namespace Grounded

/-- The address and the credential of a model server. -/
structure BackendClient (m : Type → Type) where
  apiBase : String
  apiKey : String
  /-- How long an answer may take. -/
  timeoutSecs : Nat
  transport : Transport m

/-- What goes wrong when a model server is asked. -/
inductive ClientError where
  /-- There was no answer, for a reason. -/
  | unanswered (reason : String)
  /-- The server refused. -/
  | refused (kind : Option String) (message : String) (param code : Option String)
  /-- The answer has not the form that it should have. -/
  | unreadable
deriving DecidableEq, Repr

/-- The text shown for it. -/
def ClientError.message : ClientError → String
  | .unanswered reason => "http error: " ++ reason
  | .refused kind message param code =>
    " ".intercalate
      ((kind.map (· ++ ":")).toList ++ [message] ++ (param.map ("(param: " ++ · ++ ")")).toList ++
        (code.map ("(code: " ++ · ++ ")")).toList)
  | .unreadable => "failed to deserialize api response"

namespace BackendClient

variable {m : Type → Type}

/-- The client that settings and a credential describe. -/
def ofSettings (s : BackendSettings) (apiKey : String) (transport : Transport m) : BackendClient m :=
  ⟨s.apiBase, apiKey, s.timeoutSecs, transport⟩

/-- The address of an endpoint: slashes at the end of the base do not matter. -/
def endpoint (c : BackendClient m) (path : String) : String :=
  String.ofList ((c.apiBase.toList.reverse.dropWhile (· == '/')).reverse) ++ path

/-- The optional text of a field. -/
def optionalText? : Option Json → Option (Option String)
  | none | some .null => some none
  | some j => j.text?.map some

/-- The refusal that the body of an answer describes. -/
def refusal? (j : Json) : Option ClientError := do
  match ← j.fields? ["error"] with
  | [error] =>
    match ← (← error).fields? ["message", "type", "param", "code"] with
    | [message, kind, param, code] =>
      some (.refused (← optionalText? kind) (← (← message).text?) (← optionalText? param)
        (← optionalText? code))
    | _ => none
  | _ => none

/-- The value that a response holds. -/
def decode {α : Type} (read : Json → Option α) (r : HttpResponse) : Except ClientError α :=
  let body := (String.fromUTF8? ⟨r.body.toArray⟩).bind Json.parse?
  if r.succeeded then
    match body.bind read with
    | some value => .ok value
    | none => .error .unreadable
  else .error ((body.bind refusal?).getD .unreadable)

/-- Sends a request to an endpoint and reads the answer. -/
def post {α : Type} [Monad m] (c : BackendClient m) (path : String) (body : Json)
    (read : Json → Option α) : ExceptT ClientError m α := do
  let request : HttpRequest :=
    { method := "POST", url := c.endpoint path, authorization := some ("Bearer " ++ c.apiKey),
      body := some body, timeoutSecs := c.timeoutSecs }
  match ← c.transport request with
  | .ok response => ExceptT.mk (pure (decode read response))
  | .error reason => throw (.unanswered reason)

end BackendClient

end Grounded
