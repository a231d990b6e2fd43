/-!
# File trees

A file system is a tree of directories with files at its leaves. The entries of a directory have
different names; their order has no meaning, and a walk visits them by name.
-/

namespace Grounded

/-- A file or a directory. -/
inductive FileTree where
  | file (content : ByteArray)
  | dir (entries : List (String × FileTree))

namespace FileTree

/-- The tree with no entries. -/
def empty : FileTree := .dir []

/-- Whether the tree is a directory. -/
def isDir : FileTree → Bool
  | .file _ => false
  | .dir _ => true

/-- Whether the tree is a file. -/
def isFile : FileTree → Bool
  | .file _ => true
  | .dir _ => false

/-- The entry of that name. A file has none. -/
def child? (name : String) : FileTree → Option FileTree
  | .file _ => none
  | .dir entries => (entries.find? (·.1 == name)).map (·.2)

/-- The tree at a place, given by the names that lead there from the root. -/
def at? : List String → FileTree → Option FileTree
  | [], t => some t
  | name :: names, t => (t.child? name).bind (at? names)

/-- The entries with the one of that name set. -/
def setEntry (name : String) (t : FileTree) : List (String × FileTree) → List (String × FileTree)
  | [] => [(name, t)]
  | entry :: rest =>
    if entry.1 == name then (name, t) :: rest else entry :: setEntry name t rest

/-- The tree with `new` put at a place. Places below a file or below nothing cannot be set. -/
def put : FileTree → List String → FileTree → FileTree
  | _, [], new => new
  | .file content, _ :: _, _ => .file content
  | .dir entries, [name], new => .dir (setEntry name new entries)
  | .dir entries, name :: names, new =>
    match entries.find? (·.1 == name) with
    | some (_, below) => .dir (setEntry name (put below names new) entries)
    | none => .dir entries

/-- The tree without the entry at a place. -/
def erase : List String → FileTree → FileTree
  | [], t => t
  | _ :: _, .file content => .file content
  | [name], .dir entries => .dir (entries.filter (·.1 != name))
  | name :: names, .dir entries =>
    match entries.find? (·.1 == name) with
    | some (_, below) => .dir (setEntry name (erase names below) entries)
    | none => .dir entries

/-- Orders named things by name. -/
def byName {α : Type} (entries : List (String × α)) : List (String × α) :=
  entries.mergeSort fun a b => !decide (b.1 < a.1)

mutual

/-- The files below, each with the names that lead to it: depth first, siblings by name. -/
def files : FileTree → List (List String × ByteArray)
  | .file content => [([], content)]
  | .dir entries => (byName (entryFiles entries)).flatMap (·.2)

/-- The files below each of the entries. -/
def entryFiles : List (String × FileTree) → List (String × List (List String × ByteArray))
  | [] => []
  | (name, t) :: rest => (name, t.files.map fun (names, content) => (name :: names, content)) ::
      entryFiles rest

end

end FileTree

end Grounded
