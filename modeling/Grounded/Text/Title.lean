import Grounded.Text.Alphabetic
import Grounded.Text.Casing

/-!
# Title case

Each run of letters gets a capital first letter and small letters after it; all else stays.
-/

namespace Grounded.Text

/-- Title case of a text whose preceding character is a letter exactly when `afterLetter` holds. -/
def titleFrom (afterLetter : Bool) : List Char → List Char
  | [] => []
  | c :: rest =>
    if isAlphabetic c then
      (if afterLetter then lowerChar c else upperChar c) ++ titleFrom true rest
    else c :: titleFrom false rest

/-- Title case of a text. -/
def titleCase (s : List Char) : List Char := titleFrom false s

end Grounded.Text
