import Grounded.Chunk.Section
import Grounded.Files.Disk
import Grounded.Source.CodeItem

/-!
# Source trees

The items of all source files and crate manifests of a project are grouped by domain. The items of one
domain make one text, which is segmented as a whole; its chunks are filed under the first item's file.
-/

namespace Grounded

open Text

/-- How a source tree is turned into chunks. -/
structure CodeExtractor where
  domains : DomainTable
  segmenter : Segmenter
  /-- Pieces of at most this many characters are dropped. -/
  minChars : Nat

namespace CodeExtractor

/-- The directory, below the project's, that holds the crates. -/
def cratesDir : String := "crates"

/-- The file that describes a crate. -/
def manifestName : String := "Cargo.toml"

/-- The items rendered and joined by blank lines; empty renderings are left out. -/
def domainText (items : List CodeItem) : List Char :=
  joinWith blankLine ((items.map fun i => trim i.render).filter (!·.isEmpty))

/-- The path of a file as a source label: what follows the last directory of crates. -/
def sourceLabel (file : String) : String :=
  match afterLast (cratesDir ++ "/").toList file.toList with
  | some rest => String.ofList rest
  | none => file

/-- The chunks of one domain. -/
def chunkDomain (e : CodeExtractor) (domain : String) (items : List CodeItem) : List Chunk :=
  match items with
  | [] => []
  | first :: _ =>
    ((e.segmenter.segment (domainText items)).filter (e.minChars < ·.length)).map fun piece =>
      ⟨String.ofList piece, sourceLabel first.file, domain, .code⟩

/-- The items of each domain in the order given, the domains in the order of their labels. -/
def group (items : List CodeItem) : List (String × List CodeItem) :=
  let labels := (items.map (·.domain)).eraseDups.mergeSort fun a b => !decide (b < a)
  labels.map fun label => (label, items.filter (·.domain == label))

/-- The chunks of all domains, in the order given. -/
def chunkDomains (e : CodeExtractor) (grouped : List (String × List CodeItem)) : List Chunk :=
  grouped.flatMap fun (domain, items) => e.chunkDomain domain items

/-- The path of a place below a directory, as a source label shows it. -/
def pathBelow (dir : String) (names : List String) : String :=
  DomainTable.forwardSlashes (names.foldl Path.join dir)

/-- The items of the source files below a directory, in the order of the walk. -/
def sourceItems (e : CodeExtractor) (dir : String) (tree : FileTree) : List CodeItem :=
  let sources := tree.files.filter fun (names, _) =>
    names.getLast?.any (Path.hasExtension "rs")
  sources.flatMap fun (names, content) =>
    match String.fromUTF8? content with
    | some text => CodeItem.ofSource e.domains text.toList (pathBelow dir names)
    | none => []

/-- The items of the manifests one level below a directory, by the names of the crates. -/
def manifestItems (e : CodeExtractor) (dir : String) (tree : FileTree) : List CodeItem :=
  match tree with
  | .file _ => []
  | .dir entries =>
    (FileTree.byName entries).filterMap fun (name, crate) =>
      match crate.child? manifestName with
      | some (.file content) =>
        (String.fromUTF8? content).bind fun text =>
          CodeItem.ofManifest? e.domains text.toList (pathBelow dir [name, manifestName])
      | _ => none

/--
The chunks of the project in `codeDir`. Within a domain, the manifests come first, the last one
leading. A project without crates has no chunks.
-/
def load (e : CodeExtractor) (d : Disk) (codeDir : String) : List Chunk :=
  let dir := Path.join codeDir cratesDir
  match d.get dir with
  | .ok (.dir entries) =>
    let tree := FileTree.dir entries
    e.chunkDomains (group ((e.manifestItems dir tree).reverse ++ e.sourceItems dir tree))
  | _ => []

end CodeExtractor

end Grounded
