import Grounded.Number.Decimal
import Grounded.Text.Digits

/-!
# Numerals

A number may be written with a sign, with digits on both sides of a point or on one side only, and with
an exponent. Infinity and what is not a number are written as words, in any case of letters.
-/

namespace Grounded

open Text

namespace Decimal

/-- A text without a sign at its start, and whether the sign was a minus. -/
def cutSign : List Char → Bool × List Char
  | '-' :: rest => (true, rest)
  | '+' :: rest => (false, rest)
  | s => (false, s)

/-- The exponent that ends a numeral; zero if there is none. -/
def exponent? : List Char → Option Int
  | [] => some 0
  | c :: rest =>
    if c == 'e' || c == 'E' then
      let (negative, digits) := cutSign rest
      if digits.isEmpty || digits.any (!isAsciiDigit ·) then none
      else if negative then some (-(valueOf digits : Int)) else some (valueOf digits)
    else none

/-- The number that a numeral without a sign stands for. -/
def unsigned? (negative : Bool) (s : List Char) : Option Decimal :=
  let whole := s.takeWhile isAsciiDigit
  let rest := s.dropWhile isAsciiDigit
  let (fraction, rest) :=
    match rest with
    | '.' :: rest => (rest.takeWhile isAsciiDigit, rest.dropWhile isAsciiDigit)
    | _ => ([], rest)
  if whole.isEmpty && fraction.isEmpty then none
  else (exponent? rest).map (ofParts negative whole fraction)

end Decimal

/-- The single nearest to what a text says. -/
def Single.ofText? (s : List Char) : Option Single :=
  let (negative, rest) := Decimal.cutSign s
  let word := String.ofList (rest.map Char.toLower)
  if word == "inf" || word == "infinity" then some (withSign negative ⟨0x7F800000⟩)
  else if word == "nan" then some (withSign negative nan)
  else (Decimal.unsigned? negative rest).map Decimal.toSingle

end Grounded
