import Grounded.Text.Find

/-!
# Paths

A path is a text whose parts are separated by slashes; it is absolute when it begins with one. Paths
are kept as written, because messages show them that way.
-/

namespace Grounded.Path

open Text

/-- Whether the path begins at the root. -/
def isAbsolute (path : String) : Bool := path.toList.head? == some '/'

/-- The path of `rest` as seen from `base`. An absolute `rest` stands for itself. -/
def join (base rest : String) : String :=
  if isAbsolute rest || base.isEmpty then rest
  else if base.toList.getLast? == some '/' then base ++ rest
  else base ++ "/" ++ rest

/-- The parts of a path. A slash at the end counts as a last part `.`, which only a directory has. -/
def parts (path : String) : List String :=
  let pieces := splitOn '/' path.toList
  let named := (pieces.filter (!·.isEmpty)).map String.ofList
  if !named.isEmpty && pieces.getLast? == some [] then named ++ ["."] else named

/-- Whether a file of this name has the extension: what follows the last dot, unless the dot comes first. -/
def hasExtension (extension fileName : String) : Bool :=
  match (splitOn '.' fileName.toList).reverse with
  | last :: before :: more =>
    last == extension.toList && !(more.isEmpty && before.isEmpty)
  | _ => false

end Grounded.Path
