import Grounded.Chunk.Record
import Grounded.Index.Basic
import Grounded.Index.Npy
import Grounded.Json.Read
import Grounded.Json.Write

/-!
# Stored indexes

An index is stored in a directory as three files: its chunks, its matrix and its manifest, written in
this order and each in place of what was there. To load it, the first two must exist and agree. A save
that stops early leaves the files that it has written.
-/

namespace Grounded

/-- The places of a stored index. -/
structure IndexPaths where
  chunks : String
  embeddings : String
  manifest : String
deriving DecidableEq, Repr

namespace IndexPaths

/-- The file of the chunks. -/
def chunksFile : String := "chunks.json"

/-- The file of the matrix. -/
def embeddingsFile : String := "embeddings.npy"

/-- The file of the manifest. -/
def manifestFile : String := "manifest.json"

/-- The places in a directory. -/
def inDir (dir : String) : IndexPaths :=
  ⟨Path.join dir chunksFile, Path.join dir embeddingsFile, Path.join dir manifestFile⟩

/-- The places in the order in which they are written. -/
def toList (p : IndexPaths) : List String := [p.chunks, p.embeddings, p.manifest]

end IndexPaths

/-- Actions on the file system. What was done before a failure stays done. -/
abbrev DiskM := ExceptT Error (StateM Disk)

namespace DiskM

/-- An operation that changes the file system. -/
def change (f : Disk → Except FileError Disk) : DiskM Unit := do
  match f (← get) with
  | .ok d => set d
  | .error e => throw (.file e)

/-- Writes a file. -/
def write (path : String) (content : ByteArray) : DiskM Unit := change (·.write path content)

end DiskM

namespace KnowledgeIndex

/-- The bytes of a text. -/
def bytesOf (text : List Char) : ByteArray := (String.ofList text).toUTF8

/-- Writes an index with its manifest into a directory, which is created if needed. -/
def save (i : KnowledgeIndex) (dir : String) (manifest : Manifest) : DiskM IndexPaths := do
  DiskM.change (·.createDirs dir)
  let paths := IndexPaths.inDir dir
  DiskM.write paths.chunks (bytesOf ((Chunk.listToJson i.chunks).pretty 0))
  match Npy.encode i.matrix with
  | .ok bytes => DiskM.write paths.embeddings ⟨bytes.toArray⟩
  | .error fault => throw fault.toError
  DiskM.write paths.manifest (bytesOf (manifest.toJson.pretty 0))
  return paths

/-- The error of a text that is not the list of chunks that it should be. -/
def badChunks : Error := .json "not a list of chunks"

/-- The chunks of a stored index. -/
def loadChunks (d : Disk) (path : String) : Except Error (List Chunk) := do
  let text ← (d.readText path).mapError .file
  match (Json.parse? text).bind Chunk.listOfJson? with
  | some chunks => return chunks
  | none => throw badChunks

/-- The matrix of a stored index. -/
def loadMatrix (d : Disk) (path : String) : Except Error Matrix := do
  let bytes ← (d.read path).mapError .file
  (Npy.decode bytes.toList).mapError Npy.Fault.toError

/-- The index that is stored in a directory. -/
def load (d : Disk) (dir : String) : Except Error KnowledgeIndex := do
  let paths := IndexPaths.inDir dir
  if !d.exists? paths.chunks then throw (.indexMissing paths.chunks)
  if !d.exists? paths.embeddings then throw (.indexMissing paths.embeddings)
  let chunks ← loadChunks d paths.chunks
  let matrix ← loadMatrix d paths.embeddings
  (pair chunks matrix).mapError fun e => .indexCorrupt e.message

/-- The stored index, unless it is missing or broken. -/
def load? (d : Disk) (dir : String) : Option KnowledgeIndex := (load d dir).toOption

end KnowledgeIndex

/-- The manifest that is stored in a directory, if there is a readable one. -/
def Manifest.load? (d : Disk) (dir : String) : Option Manifest := do
  let text ← (d.readText (Path.join dir IndexPaths.manifestFile)).toOption
  Manifest.ofJson? (← Json.parse? text)

end Grounded
