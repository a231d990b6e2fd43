/-!
# Tables of code points

A property of characters is kept as closed ranges of code points, ascending and apart, so that a
look-up can stop at the first range above the code point.
-/

namespace Grounded.Text

/-- Closed ranges of code points, ascending and apart. -/
abbrev Ranges := List (Nat × Nat)

/-- Whether some range holds the code point. -/
def Ranges.has : Ranges → Nat → Bool
  | [], _ => false
  | (first, last) :: rest, n => if n < first then false else n ≤ last || Ranges.has rest n

end Grounded.Text
