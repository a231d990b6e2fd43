/-!
# Searching in text

Occurrences of a fixed text in another: whether there is one, and the cuts at the first, the last or
all of them.
-/

namespace Grounded.Text

/-- Whether `needle` occurs somewhere in the text. -/
def includes (needle : List Char) : List Char → Bool
  | [] => needle.isEmpty
  | c :: rest => needle.isPrefixOf (c :: rest) || includes needle rest

/-- What stands before and after the first occurrence of `needle`. -/
def cutFirst (needle : List Char) : List Char → Option (List Char × List Char)
  | [] => if needle.isEmpty then some ([], []) else none
  | c :: rest =>
    if needle.isPrefixOf (c :: rest) then some ([], (c :: rest).drop needle.length)
    else (cutFirst needle rest).map fun (before, after) => (c :: before, after)

/-- What stands after the last occurrence of `needle`. -/
def afterLast (needle : List Char) : List Char → Option (List Char)
  | [] => if needle.isEmpty then some [] else none
  | c :: rest =>
    match afterLast needle rest with
    | some after => some after
    | none =>
      if needle.isPrefixOf (c :: rest) then some ((c :: rest).drop needle.length) else none

/-- The text after `start`, if the text begins with it. -/
def afterStart? (start s : List Char) : Option (List Char) :=
  if start.isPrefixOf s then some (s.drop start.length) else none

/-- The stretches between the occurrences of a character, one more than there are occurrences. -/
def splitOn (sep : Char) : List Char → List (List Char)
  | [] => [[]]
  | c :: rest =>
    if c == sep then [] :: splitOn sep rest
    else
      match splitOn sep rest with
      | [] => [[c]]
      | part :: parts => (c :: part) :: parts

/-- The parts joined with `sep` between them. -/
def joinWith (sep : List Char) : List (List Char) → List Char
  | [] => []
  | [part] => part
  | part :: parts => part ++ sep ++ joinWith sep parts

end Grounded.Text
