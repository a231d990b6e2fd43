import Grounded.Json.Basic
import Grounded.Text.Digits

/-!
# Reading JSON

A text is a JSON value with blanks around it. The reader takes the whole text or nothing.
-/

namespace Grounded.Json

open Text

/-- Drops the blanks between the parts of a value. -/
def skipBlanks (s : List Char) : List Char :=
  s.dropWhile fun c => c == ' ' || c == '\n' || c == '\t' || c == '\r'

/-! ## Strings -/

/-- One unit of a string: a character, or the sixteen bits of an escape. -/
inductive StringUnit where
  | char (c : Char)
  | escape (n : Nat)
deriving DecidableEq, Repr

/-- The character of a short escape. -/
def shortEscape? (c : Char) : Option Char :=
  match c with
  | '"' => some '"'
  | '\\' => some '\\'
  | '/' => some '/'
  | 'b' => some '\x08'
  | 'f' => some '\x0c'
  | 'n' => some '\n'
  | 'r' => some '\r'
  | 't' => some '\t'
  | _ => none

/-- The units up to the closing quote, and what follows it. -/
def units? : List Char → Option (List StringUnit × List Char)
  | [] => none
  | '"' :: rest => some ([], rest)
  | '\\' :: 'u' :: a :: b :: c :: d :: rest => do
    let n ← digitsValue? 16 [a, b, c, d]
    let (units, after) ← units? rest
    some (.escape n :: units, after)
  | '\\' :: e :: rest => do
    let c ← shortEscape? e
    let (units, after) ← units? rest
    some (.char c :: units, after)
  | c :: rest =>
    if c.toNat < 0x20 || c == '\\' then none
    else do
      let (units, after) ← units? rest
      some (.char c :: units, after)

/-- Whether the number is the first half of a surrogate pair. -/
def isHighSurrogate (n : Nat) : Bool := 0xD800 ≤ n && n ≤ 0xDBFF

/-- Whether the number is the second half of a surrogate pair. -/
def isLowSurrogate (n : Nat) : Bool := 0xDC00 ≤ n && n ≤ 0xDFFF

/-- The text that the units spell, if no half of a surrogate pair stands alone. -/
def spell? : List StringUnit → Option (List Char)
  | [] => some []
  | .char c :: rest => (spell? rest).map (c :: ·)
  | .escape n :: rest =>
    if isHighSurrogate n then
      match rest with
      | .escape m :: rest =>
        if isLowSurrogate m then
          (spell? rest).map (Char.ofNat (0x10000 + (n - 0xD800) * 0x400 + (m - 0xDC00)) :: ·)
        else none
      | _ => none
    else if isLowSurrogate n then none
    else (spell? rest).map (Char.ofNat n :: ·)

/-- The string after an opening quote, and what follows it. -/
def string? (s : List Char) : Option (Option String × List Char) :=
  (units? s).map fun (units, rest) => ((spell? units).map String.ofList, rest)

/-! ## Numbers -/

/-- The digits of a fraction, after the point, and what follows them. -/
def fraction? (s : List Char) : Option (List Char × List Char) :=
  match s with
  | '.' :: rest =>
    let digits := rest.takeWhile isAsciiDigit
    if digits.isEmpty then none else some (digits, rest.dropWhile isAsciiDigit)
  | _ => some ([], s)

/-- The exponent, zero if there is none, and what follows it. -/
def exponent? (s : List Char) : Option (Int × List Char) :=
  match s with
  | c :: rest =>
    if c == 'e' || c == 'E' then
      let (negative, rest) :=
        match rest with
        | '+' :: rest => (false, rest)
        | '-' :: rest => (true, rest)
        | _ => (false, rest)
      let digits := rest.takeWhile isAsciiDigit
      let value : Int := Decimal.valueOf digits
      if digits.isEmpty then none
      else some (if negative then -value else value, rest.dropWhile isAsciiDigit)
    else some (0, s)
  | [] => some (0, s)

/-- A number, and what follows it. -/
def number? (s : List Char) : Option (Json × List Char) := do
  let negative := s.head? == some '-'
  let s := if negative then s.tail else s
  let digits := s.takeWhile isAsciiDigit
  let rest := s.dropWhile isAsciiDigit
  if digits.isEmpty || (digits.head? == some '0' && digits.length ≠ 1) then none
  let (fraction, afterFraction) ← fraction? rest
  let (exponent, after) ← exponent? afterFraction
  let whole := after.length == rest.length && !(negative && Decimal.valueOf digits == 0)
  some (.number (Decimal.ofParts negative digits fraction exponent) whole, after)

/-! ## Values -/

/-- The rest of the text, if it begins with the word. -/
def word? (word : String) (s : List Char) : Option (List Char) :=
  if word.toList.isPrefixOf s then some (s.drop word.length) else none

mutual

/-- A value, and what follows it. -/
def value? : Nat → List Char → Option (Json × List Char)
  | 0, _ => none
  | fuel + 1, s =>
    match skipBlanks s with
    | 'n' :: rest => (word? "ull" rest).map (.null, ·)
    | 't' :: rest => (word? "rue" rest).map (.bool true, ·)
    | 'f' :: rest => (word? "alse" rest).map (.bool false, ·)
    | '"' :: rest => (string? rest).map fun (text, rest) => (.string text, rest)
    | '[' :: rest =>
      match skipBlanks rest with
      | ']' :: rest => some (.array [], rest)
      | rest => (items? fuel rest).map fun (items, rest) => (.array items, rest)
    | '\x7b' :: rest =>
      match skipBlanks rest with
      | '\x7d' :: rest => some (.object [], rest)
      | rest => (members? fuel rest).map fun (members, rest) => (.object members, rest)
    | rest => number? rest

/-- The items of an array from the next one on, and what follows the closing bracket. -/
def items? : Nat → List Char → Option (List Json × List Char)
  | 0, _ => none
  | fuel + 1, s => do
    let (item, rest) ← value? fuel s
    match skipBlanks rest with
    | ',' :: rest =>
      let (items, rest) ← items? fuel rest
      some (item :: items, rest)
    | ']' :: rest => some ([item], rest)
    | _ => none

/-- The members of an object from the next one on, and what follows the closing brace. -/
def members? : Nat → List Char → Option (List (Option String × Json) × List Char)
  | 0, _ => none
  | fuel + 1, s =>
    match skipBlanks s with
    | '"' :: rest => do
      let (key, rest) ← string? rest
      match skipBlanks rest with
      | ':' :: rest =>
        let (value, rest) ← value? fuel rest
        match skipBlanks rest with
        | ',' :: rest =>
          let (members, rest) ← members? fuel rest
          some ((key, value) :: members, rest)
        | '\x7d' :: rest => some ([(key, value)], rest)
        | _ => none
      | _ => none
    | _ => none

end

/--
The value that a text holds. Every two steps of the reader take a character, so the fuel outlasts the
text.
-/
def parse? (text : String) : Option Json :=
  let s := text.toList
  match value? (2 * s.length + 2) s with
  | some (value, rest) => if (skipBlanks rest).isEmpty then some value else none
  | none => none

end Grounded.Json
