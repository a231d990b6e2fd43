import Grounded.Chunk.Basic
import Grounded.Chunk.Segmenter

/-!
# Sections

Pages and documents reduce to a stream of headings and bodies. The text under one heading, up to the
next, is a section; sections without text are skipped, and text before the first heading belongs to a
default heading. Sections are drawn from the stream one at a time by `SectionStream.next`.
-/

namespace Grounded

open Text

/-- One structural element of a document. -/
inductive Block where
  | heading (text : List Char)
  | body (text : List Char)
deriving DecidableEq, Repr

/-- The text collected under one heading. -/
structure Section where
  heading : List Char
  body : List Char
deriving DecidableEq, Repr

/-- Sections still to be drawn from a stream of blocks. -/
structure SectionStream where
  /-- The blocks not yet read. -/
  blocks : List Block
  /-- The heading of the section being collected. -/
  heading : List Char
  /-- The text collected so far, each piece followed by a blank line. -/
  body : List Char
  /-- Whether the last section has been given out. -/
  done : Bool
deriving DecidableEq, Repr

namespace SectionStream

/-- The stream over `blocks`, with a heading for the text before the first one. -/
def ofBlocks (defaultHeading : List Char) (blocks : List Block) : SectionStream :=
  ⟨blocks, defaultHeading, [], false⟩

/-- The section collected so far, if it has any text. -/
def pending? (heading body : List Char) : Option Section :=
  match trim body with
  | [] => none
  | text => some ⟨heading, text⟩

/-- Reads blocks up to the next section with text, and gives that section and the stream after it. -/
def advance (heading body : List Char) : List Block → Option Section × SectionStream
  | [] => (pending? heading body, ⟨[], heading, [], true⟩)
  | .heading h :: rest =>
    match pending? heading body with
    | some s => (some s, ⟨rest, h, [], false⟩)
    | none => advance h [] rest
  | .body text :: rest => advance heading (body ++ text ++ blankLine) rest

/-- The next section, if there is one. -/
def next (s : SectionStream) : Option Section × SectionStream :=
  if s.done then (none, s) else advance s.heading s.body s.blocks

theorem blocks_advance_lt {heading body : List Char} {blocks : List Block} {x : Section}
    {s : SectionStream} (h : advance heading body blocks = (some x, s)) :
    s.done = true ∨ s.blocks.length < blocks.length := by
  induction blocks generalizing heading body with
  | nil => simp only [advance, Prod.mk.injEq] at h; simp [← h.2]
  | cons b rest ih =>
    cases b with
    | heading t =>
      simp only [advance] at h
      split at h
      · simp only [Prod.mk.injEq] at h; simp [← h.2]
      · rcases ih h with h | h
        · exact .inl h
        · right; simp only [List.length_cons]; omega
    | body t =>
      rcases ih h with h | h
      · exact .inl h
      · right; simp only [List.length_cons]; omega

/-- What bounds the number of sections still to come. -/
def measure (s : SectionStream) : Nat := if s.done then 0 else s.blocks.length + 1

/-- All sections of the stream, and the stream after the last of them. -/
def drain (s : SectionStream) : List Section × SectionStream :=
  match _h : s.next with
  | (none, rest) => ([], rest)
  | (some x, rest) =>
    let (xs, final) := drain rest
    (x :: xs, final)
termination_by s.measure
decreasing_by
  unfold next at _h
  split at _h
  · simp at _h
  · rename_i hd
    simp only [measure, hd, Bool.false_eq_true, ↓reduceIte]
    rcases blocks_advance_lt _h with hr | hr
    · simp [hr]
    · split <;> omega

end SectionStream

/-- The sections of a stream of blocks. -/
def sections (defaultHeading : List Char) (blocks : List Block) : List Section :=
  (SectionStream.ofBlocks defaultHeading blocks).drain.1

/-- The segments of one section that have more than `minChars` characters, as chunks. -/
def Section.chunks (g : Segmenter) (minChars : Nat) (source : String) (kind : ChunkKind)
    (s : Section) : List Chunk :=
  ((g.segment s.body).filter (minChars < ·.length)).map fun piece =>
    ⟨String.ofList piece, source, String.ofList s.heading, kind⟩

/-- The chunks of several sections, in order. -/
def chunkSections (g : Segmenter) (minChars : Nat) (source : String) (kind : ChunkKind)
    (parts : List Section) : List Chunk :=
  parts.flatMap (·.chunks g minChars source kind)

end Grounded
