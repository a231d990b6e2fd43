import Grounded.Number.Single
import Grounded.Error

/-!
# Matrices

The embeddings of an index, one vector a row, all of the same width.
-/

namespace Grounded

/-- A matrix of singles, its rows one after the other. -/
structure Matrix where
  rows : Nat
  dims : Nat
  data : Array Single
  size_data : data.size = rows * dims
deriving DecidableEq

namespace Matrix

/-- The matrix without rows. -/
def empty : Matrix := ⟨0, 0, #[], rfl⟩

/-- Whether the matrix has no rows. -/
def isEmpty (m : Matrix) : Bool := m.rows == 0

/-- A row that is not as wide as the first one. -/
structure Ragged where
  row : Nat
  found : Nat
  expected : Nat
deriving DecidableEq, Repr

/-- The text shown for a ragged row. -/
def Ragged.message (e : Ragged) : String :=
  s!"Row {e.row} has {e.found} dimensions, expected {e.expected}"

/-- The first of the rows that is not of the width, counted from `row`. -/
def firstRagged? (dims : Nat) (row : Nat) : List (List Single) → Option Ragged
  | [] => none
  | v :: vs => if v.length = dims then firstRagged? dims (row + 1) vs else some ⟨row, v.length, dims⟩

theorem length_flatten {dims row : Nat} {vectors : List (List Single)}
    (h : firstRagged? dims row vectors = none) : vectors.flatten.length = vectors.length * dims := by
  induction vectors generalizing row with
  | nil => simp
  | cons v vs ih =>
    simp only [firstRagged?] at h
    split at h
    · rename_i hv
      simp only [List.flatten_cons, List.length_append, List.length_cons, ih h, hv, Nat.add_mul]
      omega
    · simp at h

/-- The matrix with these rows, as wide as the first one. -/
def ofRows (vectors : List (List Single)) : Except Ragged Matrix :=
  let dims := (vectors.head?.map List.length).getD 0
  match h : firstRagged? dims 0 vectors with
  | some e => .error e
  | none => .ok ⟨vectors.length, dims, vectors.flatten.toArray, by simp [length_flatten h]⟩

/-- The row at an index; beyond the last row there is nothing. -/
def row (m : Matrix) (i : Nat) : List Single :=
  (m.data.extract (i * m.dims) ((i + 1) * m.dims)).toList

/-- The row at an index, if the numbers reach that far. Rows without numbers are everywhere. -/
def row? (m : Matrix) (i : Nat) : Option (List Single) :=
  if (i + 1) * m.dims ≤ m.data.size then some (m.row i) else none

/-- All rows, in order. -/
def vectors (m : Matrix) : List (List Single) := (List.range m.rows).map m.row

/-- The dot product of every row with a vector. -/
def dot (m : Matrix) (query : List Single) : List Single := m.vectors.map (Single.dot · query)

end Matrix

end Grounded
