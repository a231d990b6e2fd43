import Grounded.Html.Entity
import Grounded.Text.Digits

/-!
# Character references

An ampersand in text or in an attribute value may open a reference: a number, or one of the names, the
longest that fits. An ampersand that opens none stands for itself.
-/

namespace Grounded.Html

open Text

/-- The names with the characters they stand for. -/
def nameTable : List (List Char × List Char) :=
  namedReferences.map fun (name, first, second) =>
    (name.toList, Char.ofNat first :: if second = 0 then [] else [Char.ofNat second])

/-- The longest name that the text begins with, and its characters. -/
def longestName? (s : List Char) : Option (List Char × List Char) :=
  nameTable.foldl (fun best (name, value) =>
    if name.isPrefixOf s && (best.all fun (found, _) => found.length < name.length) then
      some (name, value)
    else best) none

/-- Whether the character is an ASCII letter. -/
def isLetter (c : Char) : Bool := ('a' ≤ c && c ≤ 'z') || ('A' ≤ c && c ≤ 'Z')

/-- Whether the character is an ASCII letter or digit. -/
def isNameChar (c : Char) : Bool := isLetter c || isAsciiDigit c

/--
What the numbers from 0x80 to 0x9F stand for; the ones that are missing stand for themselves.
-/
def windowsChars : List (Nat × Nat) :=
  [(0x80, 0x20AC), (0x82, 0x201A), (0x83, 0x0192), (0x84, 0x201E), (0x85, 0x2026), (0x86, 0x2020),
   (0x87, 0x2021), (0x88, 0x02C6), (0x89, 0x2030), (0x8A, 0x0160), (0x8B, 0x2039), (0x8C, 0x0152),
   (0x8E, 0x017D), (0x91, 0x2018), (0x92, 0x2019), (0x93, 0x201C), (0x94, 0x201D), (0x95, 0x2022),
   (0x96, 0x2013), (0x97, 0x2014), (0x98, 0x02DC), (0x99, 0x2122), (0x9A, 0x0161), (0x9B, 0x203A),
   (0x9C, 0x0153), (0x9E, 0x017E), (0x9F, 0x0178)]

/-- The replacement character. -/
def replacement : Char := '\ufffd'

/-- The character that a number refers to. -/
def numberedChar (n : Nat) : Char :=
  match windowsChars.lookup n with
  | some m => Char.ofNat m
  | none => if n = 0 || 0x10FFFF < n || (0xD800 ≤ n && n ≤ 0xDFFF) then replacement else Char.ofNat n

/-- The text without the semicolon at its start, if there is one. -/
def dropSemicolon (s : List Char) : List Char := if s.head? == some ';' then s.tail else s

/-- The character of a numeric reference in the given base, from its digits on, and what follows. -/
def numeric? (base : Nat) (s : List Char) : Option (List Char × List Char) :=
  let isDigit (c : Char) := (digitValue? base c).isSome
  let digits := s.takeWhile isDigit
  if digits.isEmpty then none
  else
    let value := (digitsValue? base digits).getD 0
    some ([numberedChar value], dropSemicolon (s.dropWhile isDigit))

/-- The characters of a named reference, and what follows it. -/
def named? (inAttribute : Bool) (s : List Char) : Option (List Char × List Char) :=
  match longestName? s with
  | none => none
  | some (name, value) =>
    let rest := s.drop name.length
    if inAttribute && name.getLast? != some ';' && rest.head?.any fun c => c == '=' || isNameChar c then
      none
    else some (value, rest)

/-- What the text after an ampersand stands for, ampersand included, and what follows. -/
def reference (inAttribute : Bool) (s : List Char) : List Char × List Char :=
  let found :=
    match s with
    | '#' :: 'x' :: rest => numeric? 16 rest
    | '#' :: 'X' :: rest => numeric? 16 rest
    | '#' :: rest => numeric? 10 rest
    | _ => named? inAttribute s
  found.getD (['&'], s)

/-- The text with its references replaced. `fuel` is at least its length. -/
def replaceWithin (inAttribute : Bool) : Nat → List Char → List Char
  | 0, _ => []
  | _, [] => []
  | fuel + 1, c :: rest =>
    if c == '&' then
      let (value, after) := reference inAttribute rest
      value ++ replaceWithin inAttribute fuel after
    else c :: replaceWithin inAttribute fuel rest

/-- The text with its references replaced. -/
def replaceReferences (inAttribute : Bool) (s : List Char) : List Char :=
  replaceWithin inAttribute s.length s

end Grounded.Html
