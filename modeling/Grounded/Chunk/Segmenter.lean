import Grounded.Text.Paragraph

/-!
# Segmentation

A segmenter packs paragraphs greedily into segments of at most `maxChars` characters. Paragraphs are
never cut, so a segment that holds one long paragraph may exceed the bound. A new segment starts with
the last `overlapChars` characters of the one before it, provided that this seed, a blank line and
the first new paragraph fit the bound together.
-/

namespace Grounded

/-- The bounds of a segmentation, in characters. -/
structure Segmenter where
  maxChars : Nat
  overlapChars : Nat
deriving DecidableEq, Repr

namespace Segmenter

open Text

/-- The last `n` characters. -/
def tailChars (n : Nat) (s : List Char) : List Char := s.drop (s.length - n)

/-- The start of a new segment: the overlap with the closed one, if it fits, then the paragraph. -/
def seed (g : Segmenter) (closed paragraph : List Char) : List Char :=
  if g.overlapChars = 0 then paragraph
  else
    let tail := tailChars g.overlapChars closed
    if g.maxChars < tail.length + 2 + paragraph.length then paragraph
    else tail ++ blankLine ++ paragraph

/--
Packs the remaining paragraphs, with `current` as the open segment. The length that decides is that
of the open segment as it stands, seed included; it is trimmed only when it is closed.
-/
def pack (g : Segmenter) (current : List Char) : List (List Char) → List (List Char)
  | [] => [trim current]
  | p :: ps =>
    if g.maxChars < current.length + p.length + 2 then
      trim current :: pack g (g.seed (trim current) p) ps
    else pack g (current ++ blankLine ++ p) ps

/-- The segments of a text. A blank text has none. -/
def segment (g : Segmenter) (text : List Char) : List (List Char) :=
  match paragraphs text with
  | [] => []
  | p :: ps => pack g p ps

end Segmenter

end Grounded
