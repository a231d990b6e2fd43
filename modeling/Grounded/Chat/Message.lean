import Grounded.Json.Basic

/-!
# Messages

A conversation is a list of messages, each with the role of its author. The same form serves for the
history of a session and for requests to a model. A stored conversation is a list of records with the
fields `role` and `content`, both of which are needed.
-/

namespace Grounded

/-- The author of a message. -/
inductive Role where
  /-- Instructions that bind the model. -/
  | system
  | user
  /-- The model. -/
  | assistant
deriving DecidableEq, Repr

namespace Role

/-- The name of the role in stored messages and requests. -/
def name : Role → String
  | system => "system"
  | user => "user"
  | assistant => "assistant"

/-- All roles. -/
def all : List Role := [system, user, assistant]

/-- The role of that name. -/
def ofName? (s : String) : Option Role := all.find? (·.name == s)

theorem ofName?_name (r : Role) : ofName? r.name = some r := by cases r <;> decide

end Role

/-- A message of a conversation. -/
structure ChatMessage where
  role : Role
  content : String
deriving DecidableEq, Repr

namespace ChatMessage

/-- The names of the fields, in order. -/
def fieldNames : List String := ["role", "content"]

/-- The record of a message. -/
def toJson (m : ChatMessage) : Json :=
  Json.ofFields [("role", Json.ofText m.role.name), ("content", Json.ofText m.content)]

/-- The message of a record. -/
def ofJson? (j : Json) : Option ChatMessage := do
  match ← j.fields? fieldNames with
  | [role, content] => some ⟨← Role.ofName? (← (← role).constant?), ← (← content).text?⟩
  | _ => none

/-- The stored form of a conversation. -/
def listToJson (messages : List ChatMessage) : Json := .array (messages.map toJson)

/-- The messages of a stored conversation. -/
def listOfJson? (j : Json) : Option (List ChatMessage) := do (← j.elements?).mapM ofJson?

end ChatMessage

end Grounded
