import Grounded.Text.Casing

/-!
# Chunks

A chunk is the unit that is embedded, retrieved and shown as evidence. Its kind says which of the
three kinds of source it came from.
-/

namespace Grounded

/-- Where a chunk came from. -/
inductive ChunkKind where
  /-- Rendered documentation pages. -/
  | docs
  /-- Doc comments and public signatures. -/
  | code
  /-- Architecture and design prose. -/
  | design
deriving DecidableEq, Repr

namespace ChunkKind

/-- The name under which the kind is stored and shown. -/
def name : ChunkKind → String
  | docs => "docs"
  | code => "code"
  | design => "design"

/-- The kinds in the order in which an index holds them. -/
def all : List ChunkKind := [docs, code, design]

/-- The kind of that very name. -/
def ofName? (s : String) : Option ChunkKind := all.find? (·.name == s)

/-- A name that names no kind. -/
structure Unknown where
  name : String
deriving DecidableEq, Repr

/-- The text shown for an unknown name. -/
def Unknown.message (e : Unknown) : String := "Unknown chunk type: " ++ e.name

/-- The kind named by a text in any case. -/
def parse (s : String) : Except Unknown ChunkKind :=
  match ofName? (String.ofList (s.toList.flatMap Text.lowerChar)) with
  | some kind => .ok kind
  | none => .error ⟨s⟩

end ChunkKind

/-- A passage with its provenance. -/
structure Chunk where
  /-- The passage itself. -/
  text : String
  /-- The page or file it came from. -/
  source : String
  /-- The heading, code domain or default label within the source; empty for none. -/
  heading : String
  kind : ChunkKind
deriving DecidableEq, Repr

/-- The source, followed by the heading where there is one. -/
def provenance (source heading : String) : String :=
  if heading.isEmpty then source else source ++ " > " ++ heading

namespace Chunk

/-- The provenance label of a chunk. -/
def label (c : Chunk) : String := provenance c.source c.heading

/-- The number of chunks of one kind. -/
def countKind (kind : ChunkKind) (chunks : List Chunk) : Nat := chunks.countP (·.kind == kind)

end Chunk

end Grounded
