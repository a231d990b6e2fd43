import Grounded.Text.Find

/-!
# Code domains

Source files belong to a domain by their path. A table lists path fragments with the label of their
domain; the first fragment that the path holds decides.
-/

namespace Grounded

/-- An ordered table of path fragments and domain labels. -/
structure DomainTable where
  entries : List (String × String)

namespace DomainTable

/-- The domain of paths that no entry matches. -/
def other : String := "Other"

/-- The path with forward slashes. -/
def forwardSlashes (path : String) : String :=
  String.ofList (path.toList.map fun c => if c == '\\' then '/' else c)

/-- The domain of a path. -/
def classify (t : DomainTable) (path : String) : String :=
  let text := (forwardSlashes path).toList
  match t.entries.find? fun (fragment, _) => Text.includes fragment.toList text with
  | some (_, label) => label
  | none => other

/-- The domains of the documented project. Modules stand before the crates that hold them. -/
def standard : DomainTable where
  entries :=
    [("sovereign-ai/src/orchestrator", "AI Orchestrator"),
     ("sovereign-ai/src/tools", "AI Tools"),
     ("sovereign-ai/src/intent", "Intent Classification"),
     ("sovereign-ai/src/llm", "LLM Backend & Prompts"),
     ("sovereign-ai/src/action_gate", "Action Gate (Gravity)"),
     ("sovereign-ai/src/trust", "Trust Calibration"),
     ("sovereign-ai/src/injection", "Prompt Injection Defense"),
     ("sovereign-ai/src/session_log", "Session Logging"),
     ("sovereign-ai/src/voice", "Voice Pipeline"),
     ("sovereign-ai/src/autocommit", "Auto-Commit"),
     ("sovereign-db/src/traits", "Database Trait (GraphDB)"),
     ("sovereign-db/src/schema", "Database Schema"),
     ("sovereign-db/src/surreal", "SurrealDB Implementation"),
     ("sovereign-crypto/src", "Encryption & Key Management"),
     ("sovereign-canvas/src", "Spatial Canvas"),
     ("sovereign-ui/src", "UI Components"),
     ("sovereign-comms/src", "Communications"),
     ("sovereign-p2p/src", "P2P Sync"),
     ("sovereign-skills/src", "Skills System"),
     ("sovereign-core/src", "Core Types & Config"),
     ("sovereign-app/src", "Application Entry Point")]

end DomainTable

end Grounded
