import Grounded.Text.Ranges

/-!
# White space

Blank characters are those with the Unicode property White_Space. Every extractor trims by this set,
and a paragraph ends at a run of it.
-/

namespace Grounded.Text

/-- The White_Space characters. -/
def blankRanges : Ranges :=
  [(0x09, 0x0D), (0x20, 0x20), (0x85, 0x85), (0xA0, 0xA0), (0x1680, 0x1680), (0x2000, 0x200A),
   (0x2028, 0x2029), (0x202F, 0x202F), (0x205F, 0x205F), (0x3000, 0x3000)]

/-- Whether the character is white space. -/
def isBlank (c : Char) : Bool := blankRanges.has c.toNat

/-- Drops the blanks at the start. -/
def trimStart (s : List Char) : List Char := s.dropWhile isBlank

/-- Drops the blanks at the end. -/
def trimEnd (s : List Char) : List Char := (s.reverse.dropWhile isBlank).reverse

/-- Drops the blanks at both ends. -/
def trim (s : List Char) : List Char := trimEnd (trimStart s)

/-- Drops every leading and trailing character for which `p` holds. -/
def stripBoth (p : Char → Bool) (s : List Char) : List Char :=
  ((s.dropWhile p).reverse.dropWhile p).reverse

/-- Replaces every maximal run of blanks by one space. -/
def collapseBlanks : List Char → List Char
  | [] => []
  | c :: rest =>
    if isBlank c then
      ' ' :: collapseBlanks (rest.dropWhile isBlank)
    else c :: collapseBlanks rest
termination_by s => s.length
decreasing_by
  · have := (List.dropWhile_sublist isBlank (l := rest)).length_le
    simp only [List.length_cons]; omega
  · simp

end Grounded.Text
