import Grounded.Chat.Engine

/-!
# Sessions

A session is a conversation in which the user types lines. A line is a question, the wish to leave, or
the wish to start again; blank lines are skipped. The session keeps the history and hands all of it over
with every question. What answers the questions is a parameter; in the program it is an engine.
-/

namespace Grounded

/-- What a line asks for. -/
inductive Request where
  | blank
  | leave
  | clear
  | ask (question : String)
deriving DecidableEq, Repr

/-- Words that end a session, in any case of letters. -/
def Request.leaveWords : List String := ["exit", "quit"]

/-- The word that starts a new conversation, in any case of letters. -/
def Request.clearWord : String := "clear"

/-- What a line asks for; blanks around it do not matter. -/
def Request.ofLine (line : String) : Request :=
  let input := String.ofList (Text.trim line.toList)
  let word := String.ofList (input.toList.map Char.toLower)
  if input.isEmpty then .blank
  else if leaveWords.contains word then .leave
  else if word == clearWord then .clear
  else .ask input

/-- What comes of a line. -/
inductive Reaction where
  | skipped
  | left
  | cleared
  | replied (text : String)
deriving DecidableEq, Repr

namespace Session

variable {m : Type → Type} [Monad m]

/-- The turns of a question and its reply. -/
def turns (question reply : String) : List ChatMessage := [⟨.user, question⟩, ⟨.assistant, reply⟩]

/-- What comes of a line after a history, and the history then. -/
def step (answer : String → List ChatMessage → m String) (history : List ChatMessage) (line : String) :
    m (Reaction × List ChatMessage) := do
  match Request.ofLine line with
  | .blank => return (.skipped, history)
  | .leave => return (.left, history)
  | .clear => return (.cleared, [])
  | .ask question =>
    let reply ← answer question history
    return (.replied reply, history ++ turns question reply)

/-- What comes of lines, up to the one that ends the session. -/
def run (answer : String → List ChatMessage → m String) (history : List ChatMessage) :
    List String → m (List Reaction)
  | [] => return []
  | line :: rest => do
    let (reaction, history) ← step answer history line
    if reaction = .left then return [reaction]
    else return reaction :: (← run answer history rest)

end Session

end Grounded
