import Grounded.Files.Path
import Grounded.Text.Blank

/-!
# The environment

Variables of the process decide where the user's files are and hold the credential of the backend.
-/

namespace Grounded

/-- The variables of the process. -/
structure Environment where
  entries : List (String × String)

namespace Environment

/-- The value of a variable. -/
def get? (e : Environment) (name : String) : Option String := List.lookup name e.entries

/-- The user's home directory. -/
def home? (e : Environment) : Option String := (e.get? "HOME").filter (!·.isEmpty)

/-- The path with a tilde at its start, alone or before a slash, replaced by the home directory. -/
def expand (e : Environment) (path : String) : String :=
  match path.toList, e.home? with
  | '~' :: rest, some home =>
    if rest.isEmpty || rest.head? == some '/' then home ++ String.ofList rest else path
  | _, _ => path

/-- The directory of the user's configuration files. -/
def configDir (e : Environment) : String :=
  match (e.get? "XDG_CONFIG_HOME").filter Path.isAbsolute with
  | some dir => dir
  | none =>
    match e.home? with
    | some home => Path.join home ".config"
    | none => "."

/-- The configuration file that is read if no other is named. -/
def configPath (e : Environment) : String :=
  Path.join (Path.join e.configDir "lore") "config.toml"

/-- The credential in a variable: its value without blanks around it, unless nothing is left. -/
def credential? (e : Environment) (name : String) : Option String :=
  match e.get? name with
  | none => none
  | some value =>
    match Text.trim value.toList with
    | [] => none
    | key => some (String.ofList key)

end Environment

end Grounded
