import Grounded.Files.Path
import Grounded.Files.Tree

/-!
# The file system

What a program sees of the files: a tree and the directory that relative paths start from. Every
operation is a function of it, so that what a failed operation leaves behind can be stated.
-/

namespace Grounded

/-- Why a file operation failed. -/
inductive FileError where
  | notFound
  | notADirectory
  | isADirectory
  | alreadyExists
  /-- A text file is not UTF-8. -/
  | invalidData
  /-- A file ends before what it announces. -/
  | unexpectedEof
  | other (message : String)
deriving DecidableEq, Repr

/-- The text shown for the failure. -/
def FileError.message : FileError → String
  | notFound => "No such file or directory (os error 2)"
  | notADirectory => "Not a directory (os error 20)"
  | isADirectory => "Is a directory (os error 21)"
  | alreadyExists => "File exists (os error 17)"
  | invalidData => "stream did not contain valid UTF-8"
  | unexpectedEof => "failed to fill whole buffer"
  | other message => message

/-- A file system with a current directory. -/
structure Disk where
  tree : FileTree
  /-- The names that lead from the root to the current directory. -/
  cwd : List String

namespace Disk

/-- The place that a part of a path leads to. -/
def step (place : List String) (part : String) : List String :=
  if part == "." then place
  else if part == ".." then place.dropLast
  else place ++ [part]

/-- Follows the parts of a path: every place on the way has to be a directory, the last need not exist. -/
def follow (tree : FileTree) (place : List String) : List String → Except FileError (List String)
  | [] => .ok place
  | part :: rest =>
    match tree.at? place with
    | none => .error .notFound
    | some (.file _) => .error .notADirectory
    | some (.dir _) => follow tree (step place part) rest

/-- The place that a path stands for. -/
def place (d : Disk) (path : String) : Except FileError (List String) :=
  if path.isEmpty then .error .notFound
  else follow d.tree (if Path.isAbsolute path then [] else d.cwd) (Path.parts path)

/-- What is at a path. -/
def get (d : Disk) (path : String) : Except FileError FileTree := do
  match d.tree.at? (← d.place path) with
  | some t => .ok t
  | none => .error .notFound

/-- Whether there is anything at the path. -/
def exists? (d : Disk) (path : String) : Bool := (d.get path).isOk

/-- Whether there is a directory at the path. -/
def isDir (d : Disk) (path : String) : Bool :=
  match d.get path with
  | .ok t => t.isDir
  | .error _ => false

/-- Whether there is a file at the path. -/
def isFile (d : Disk) (path : String) : Bool :=
  match d.get path with
  | .ok t => t.isFile
  | .error _ => false

/-- The content of the file at the path. -/
def read (d : Disk) (path : String) : Except FileError ByteArray := do
  match ← d.get path with
  | .file content => .ok content
  | .dir _ => .error .isADirectory

/-- The content of the text file at the path. -/
def readText (d : Disk) (path : String) : Except FileError String := do
  match String.fromUTF8? (← d.read path) with
  | some text => .ok text
  | none => .error .invalidData

/-- The length of the file at the path. -/
def size? (d : Disk) (path : String) : Option Nat :=
  match d.get path with
  | .ok (.file content) => some content.size
  | .ok (.dir _) => some 4096
  | .error _ => none

/-- Sets the content of the file at the path, which is created if its directory exists. -/
def write (d : Disk) (path : String) (content : ByteArray) : Except FileError Disk := do
  let place ← d.place path
  match d.tree.at? place with
  | some (.dir _) => .error .isADirectory
  | some (.file _) => .ok { d with tree := d.tree.put place (.file content) }
  | none =>
    match d.tree.at? place.dropLast with
    | some (.dir _) => .ok { d with tree := d.tree.put place (.file content) }
    | some (.file _) => .error .notADirectory
    | none => .error .notFound

/-- Follows the parts of a path and creates the directories that are missing. -/
def makeDirs (tree : FileTree) (place : List String) : List String → Except FileError FileTree
  | [] =>
    match tree.at? place with
    | none => .ok (tree.put place .empty)
    | some (.file _) => .error .alreadyExists
    | some (.dir _) => .ok tree
  | part :: rest =>
    match tree.at? place with
    | none => makeDirs (tree.put place .empty) (step place part) rest
    | some (.file _) => .error .notADirectory
    | some (.dir _) => makeDirs tree (step place part) rest

/-- Creates the directory at the path and those above it. -/
def createDirs (d : Disk) (path : String) : Except FileError Disk := do
  if path.isEmpty then return d
  let start := if Path.isAbsolute path then [] else d.cwd
  return { d with tree := ← makeDirs d.tree start (Path.parts path) }

/-- Removes the file at the path. -/
def remove (d : Disk) (path : String) : Except FileError Disk := do
  let place ← d.place path
  match d.tree.at? place with
  | some (.file _) => .ok { d with tree := d.tree.erase place }
  | some (.dir _) => .error .isADirectory
  | none => .error .notFound

end Disk

end Grounded
