import Grounded.Chunk.Basic
import Grounded.Json.Basic

/-!
# Stored chunks

The chunks of an index are stored as a list of records with the fields `text`, `source`, `section` and
`type`. Only the section may be left out.
-/

namespace Grounded.Chunk

/-- The names of the fields, in order. -/
def fieldNames : List String := ["text", "source", "section", "type"]

/-- The record of a chunk. -/
def toJson (c : Chunk) : Json :=
  Json.ofFields
    [("text", Json.ofText c.text), ("source", Json.ofText c.source),
     ("section", Json.ofText c.heading), ("type", Json.ofText c.kind.name)]

/-- The chunk of a record. -/
def ofJson? (j : Json) : Option Chunk := do
  match ← j.fields? fieldNames with
  | [text, source, heading, kind] =>
    let text ← (← text).text?
    let source ← (← source).text?
    let heading ←
      match heading with
      | some value => value.text?
      | none => some ""
    let kind ← ChunkKind.ofName? (← (← kind).constant?)
    some ⟨text, source, heading, kind⟩
  | _ => none

/-- The stored form of a list of chunks. -/
def listToJson (chunks : List Chunk) : Json := .array (chunks.map toJson)

/-- The chunks of a stored list. -/
def listOfJson? (j : Json) : Option (List Chunk) := do (← j.elements?).mapM ofJson?

end Grounded.Chunk
