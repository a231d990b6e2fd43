import Grounded.Files.Disk
import Grounded.Text.Casing
import Grounded.Text.Find

/-!
# Errors

What can go wrong, by the stage where it happens. Every error has one line of text for the user.
-/

namespace Grounded

/-- An error of the program. -/
inductive Error where
  | config (message : String)
  | ingest (message : String)
  | embedding (message : String)
  | generation (message : String)
  /-- A model backend refused, failed or could not be reached. -/
  | backend (message : String)
  /-- An artifact of the index does not exist. -/
  | indexMissing (path : String)
  | indexCorrupt (message : String)
  | file (cause : FileError)
  | json (message : String)
  | toml (message : String)
  | http (message : String)
  | invalidInput (message : String)
deriving DecidableEq, Repr

namespace Error

/-- The text shown for the error. -/
def message : Error → String
  | config m => "Configuration error: " ++ m
  | ingest m => "Ingestion error: " ++ m
  | embedding m => "Embedding generation failed: " ++ m
  | generation m => "Generation failed: " ++ m
  | backend m => "Backend API error: " ++ m
  | indexMissing path => "Index not found: " ++ path
  | indexCorrupt m => "Index is corrupt: " ++ m
  | file cause => "IO error: " ++ cause.message
  | json m => "JSON error: " ++ m
  | toml m => "TOML parse error: " ++ m
  | http m => "HTTP error: " ++ m
  | invalidInput m => "Invalid input: " ++ m

/-- What lies behind the error, if it passes on the failure of something else. -/
def cause? : Error → Option String
  | file cause => some cause.message
  | json m | toml m | http m => some m
  | _ => none

/-- Whether a text tells of too many requests: it holds "rate" in any case, or the status 429. -/
def tellsRateLimit (text : String) : Bool :=
  Text.includes "rate".toList (text.toList.flatMap Text.lowerChar) ||
    Text.includes "429".toList text.toList

/-- Whether the error looks like a refusal of too many requests. Its text is all there is to go by. -/
def rateLimited (e : Error) : Bool := tellsRateLimit e.message

end Error

end Grounded
