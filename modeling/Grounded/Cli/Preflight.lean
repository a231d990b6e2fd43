import Grounded.Config.Settings
import Grounded.Index.Store

/-!
# Checks before work

Before work that would otherwise fail halfway, the credential and the files of the index are looked for.
-/

namespace Grounded.Cli

/-- Work that is checked for. -/
inductive Operation where
  /-- Needs the credential. -/
  | index
  /-- Needs the credential and an index. -/
  | search
deriving DecidableEq, Repr

/-- How a credential is set. -/
def credentialHint (name : String) : String := "export " ++ name ++ "='...'"

/-- How an index comes to be. -/
def buildHint : String := "Build it with: lore index"

/-- Checks that there is a credential. -/
def checkCredential (s : Settings) (env : Environment) : Except Error Unit :=
  let name := s.backend.apiKeyEnv
  if (s.apiKey? env).isSome then .ok ()
  else .error (.config (name ++ " is not set. Set it with: " ++ credentialHint name))

/-- The files of an index that have to be there. -/
def indexFiles (dir : String) : List String :=
  [(IndexPaths.inDir dir).chunks, (IndexPaths.inDir dir).embeddings]

/-- Checks that there is an index. -/
def checkIndex (s : Settings) (env : Environment) (d : Disk) : Except Error Unit :=
  match (indexFiles (s.indexDir env)).find? fun path => !d.exists? path with
  | some path => .error (.indexMissing (path ++ ". " ++ buildHint))
  | none => .ok ()

/-- Checks what an operation needs. -/
def preflight (operation : Operation) (s : Settings) (env : Environment) (d : Disk) :
    Except Error Unit :=
  match operation with
  | .index => checkCredential s env
  | .search => do
    checkCredential s env
    checkIndex s env d

end Grounded.Cli
