import Grounded.Text.Blank

/-!
# Paragraphs

A paragraph break is a run of white space that holds at least two line feeds. Paragraphs are what
stands between the breaks, trimmed, and never empty.
-/

namespace Grounded.Text

/--
The stretches between paragraph breaks, untrimmed. `before` is the current stretch, reversed. A line
feed opens a break when the blanks after it hold another line feed; the break then takes all of them.
-/
def stretches (before : List Char) : List Char → List (List Char)
  | [] => [before.reverse]
  | c :: rest =>
    if c == '\n' && (rest.takeWhile isBlank).contains '\n' then
      before.reverse :: stretches [] (rest.dropWhile isBlank)
    else stretches (c :: before) rest
termination_by s => s.length
decreasing_by
  · have := (List.dropWhile_sublist isBlank (l := rest)).length_le
    simp only [List.length_cons]; omega
  · simp

/-- The paragraphs of a text, in order. -/
def paragraphs (s : List Char) : List (List Char) :=
  ((stretches [] s).map trim).filter (!·.isEmpty)

/-- The blank line that joins paragraphs. -/
def blankLine : List Char := ['\n', '\n']

end Grounded.Text
