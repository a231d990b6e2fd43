import Grounded.Text.Find

/-!
# Lines

A text is cut at its line feeds. `splitLines` keeps what stands after the last one even when it is
empty; `lines` reads a final line feed as the end of the last line, and takes a carriage return
before a line feed as part of the line break.
-/

namespace Grounded.Text

/-- The stretches between line feeds, one more than there are line feeds. -/
def splitLines (s : List Char) : List (List Char) := splitOn '\n' s

/-- The line without the carriage return at its end, if it has one. -/
def dropReturn (line : List Char) : List Char :=
  if line.getLast? == some '\r' then line.dropLast else line

/-- The lines of a text, without their line breaks. -/
def lines (s : List Char) : List (List Char) :=
  let all := splitLines s
  match all.getLast? with
  | some [] => all.dropLast.map dropReturn
  | some last => all.dropLast.map dropReturn ++ [last]
  | none => []

end Grounded.Text
