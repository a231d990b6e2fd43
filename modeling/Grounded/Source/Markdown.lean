import Grounded.Chunk.Section

/-!
# Markdown documents

A heading is a line of one to three number signs, a space or tab, and some text; deeper headings are
part of the prose. The document is scanned once: body text and headings alternate, and a body stands
first and last, empty where there is nothing.
-/

namespace Grounded.Markdown

open Text

/-- Whether the character may stand between the number signs of a heading and its text. -/
def isGap (c : Char) : Bool := c == ' ' || c == '\t'

/-- The label that a heading shows: the number signs and blanks around it are not part of it. -/
def label (s : List Char) : List Char := trim (stripBoth (· == '#') (stripBoth isGap s))

/--
Reads a heading from text at the start of a line: its label, and the rest of the text from the end of
that line on.
-/
def heading? (s : List Char) : Option (List Char × List Char) :=
  let level := (s.takeWhile (· == '#')).length
  if level = 0 || 3 < level then none
  else
    match s.drop level with
    | gap :: c :: rest =>
      if isGap gap && c != '\n' then
        some (label (gap :: c :: rest.takeWhile (· != '\n')), rest.dropWhile (· != '\n'))
      else none
    | _ => none

theorem length_heading?_lt {s l rest : List Char} (h : heading? s = some (l, rest)) :
    rest.length < s.length := by
  unfold heading? at h
  simp only at h
  split at h
  · simp at h
  · split at h
    · rename_i gap c r hs
      split at h
      · simp only [Option.some.injEq, Prod.mk.injEq] at h
        have h1 := (List.dropWhile_sublist (· != '\n') (l := r)).length_le
        have h2 := congrArg List.length hs
        simp only [List.length_drop, List.length_cons] at h2
        rw [← h.2]
        omega
      · simp at h
    · simp at h

/--
The blocks of the rest of a document. `before` is the body read so far, reversed, and `lineStart`
says whether the rest begins a line.
-/
def scan (before : List Char) (lineStart : Bool) (s : List Char) : List Block :=
  match s with
  | [] => [.body (trim before.reverse)]
  | c :: rest =>
    match _h : if lineStart then heading? (c :: rest) else none with
    | some (title, after) => .body (trim before.reverse) :: .heading title :: scan [] false after
    | none => scan (c :: before) (c == '\n') rest
termination_by s.length
decreasing_by
  · split at _h
    · exact length_heading?_lt _h
    · simp at _h
  · simp

/-- The blocks of a document. -/
def blocks (content : List Char) : List Block := scan [] true content

/-- How Markdown documents are cut into chunks. -/
structure Extractor where
  segmenter : Segmenter
  /-- Pieces of at most this many characters are dropped. -/
  minChars : Nat

/--
The chunks of a document. Text before the first heading is filed under `defaultHeading`.
-/
def Extractor.chunks (e : Extractor) (content defaultHeading source : String) : List Chunk :=
  chunkSections e.segmenter e.minChars source .design
    (sections defaultHeading.toList (blocks content.toList))

end Grounded.Markdown
