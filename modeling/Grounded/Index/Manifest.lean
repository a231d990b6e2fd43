import Grounded.Chunk.Basic
import Grounded.Index.Instant
import Grounded.Json.Basic
import Grounded.Text.Digits

/-!
# Manifests

A manifest tells when and with which model an index was built, and what it holds. It is written next to
the index; nothing depends on it.
-/

namespace Grounded

/-- What is known about an index beside its content. -/
structure Manifest where
  builtAt : Instant
  embeddingModel : String
  chunkCount : Nat
  dimensions : Nat
  /-- The number of chunks of each kind, by name. -/
  byKind : List (String × Nat)
deriving DecidableEq, Repr

namespace Manifest

/-- The names of the fields, in order. -/
def fieldNames : List String :=
  ["built_at", "embedding_model", "chunk_count", "dimensions", "by_type"]

/-- The counts with the one of a name set, in the order of the names. -/
def setCount (name : String) (n : Nat) : List (String × Nat) → List (String × Nat)
  | [] => [(name, n)]
  | (key, m) :: rest =>
    if name < key then (name, n) :: (key, m) :: rest
    else if name = key then (name, n) :: rest
    else (key, m) :: setCount name n rest

/-- The counts of all kinds of chunks, in the order of their names. -/
def countKinds (chunks : List Chunk) : List (String × Nat) :=
  ChunkKind.all.foldl (fun counts kind => setCount kind.name (Chunk.countKind kind chunks) counts) []

/-- The stored form. -/
def toJson (m : Manifest) : Json :=
  Json.ofFields
    [("built_at", Json.ofText m.builtAt.toText), ("embedding_model", Json.ofText m.embeddingModel),
     ("chunk_count", Json.ofNat m.chunkCount), ("dimensions", Json.ofNat m.dimensions),
     ("by_type", Json.ofFields (m.byKind.map fun (name, n) => (name, Json.ofNat n)))]

/-- The counts of a stored manifest. Of repeated names, the last counts. -/
def countsOfJson? (j : Json) : Option (List (String × Nat)) :=
  match j with
  | .object members =>
    members.foldlM (fun counts (key, value) => do
      return setCount (← key) (← value.nat? Text.wordBound) counts) []
  | _ => none

/-- The manifest of its stored form. -/
def ofJson? (j : Json) : Option Manifest := do
  match ← j.fields? fieldNames with
  | [builtAt, model, count, dims, kinds] =>
    some
      ⟨← Instant.ofText? (← (← builtAt).text?), ← (← model).text?, ← (← count).nat? Text.wordBound,
        ← (← dims).nat? Text.wordBound, ← countsOfJson? (← kinds)⟩
  | _ => none

end Manifest

end Grounded
