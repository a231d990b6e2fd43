import Grounded.Text.Digits
import Grounded.Text.Find
import Grounded.Toml.Basic

/-!
# Scalars of TOML

Keys, strings, numbers, dates and times as they are written. Each reader takes the start of a text and
gives the rest.
-/

namespace Grounded.Toml

open Text

/-- Drops spaces and tabs. -/
def dropBlanks (s : List Char) : List Char := s.dropWhile fun c => c == ' ' || c == '\t'

/-- The text after a line break, if one stands here. -/
def lineBreak? : List Char → Option (List Char)
  | '\n' :: rest => some rest
  | '\r' :: '\n' :: rest => some rest
  | _ => none

/-- Whether the character may stand in strings and comments: no control character but the tab. -/
def isPlain (c : Char) : Bool := c == '\t' || (0x20 ≤ c.toNat && c.toNat != 0x7F)

/-! ## Strings -/

/-- The character of a short escape. -/
def shortEscape? (c : Char) : Option Char :=
  match c with
  | 'b' => some '\x08'
  | 't' => some '\t'
  | 'n' => some '\n'
  | 'f' => some '\x0c'
  | 'r' => some '\r'
  | '"' => some '"'
  | '\\' => some '\\'
  | _ => none

/-- The character of an escape, from behind the backslash. -/
def escape? (s : List Char) : Option (Char × List Char) :=
  match s with
  | [] => none
  | c :: rest =>
    if c == 'u' || c == 'U' then
      let width := if c == 'u' then 4 else 8
      let digits := rest.take width
      match digitsValue? 16 digits with
      | some n =>
        if digits.length = width && n.isValidChar then some (Char.ofNat n, rest.drop width) else none
      | none => none
    else (shortEscape? c).map (·, rest)

/-- Drops spaces, tabs and line breaks. -/
def dropLines : List Char → List Char
  | ' ' :: rest => dropLines rest
  | '\t' :: rest => dropLines rest
  | '\n' :: rest => dropLines rest
  | '\r' :: '\n' :: rest => dropLines rest
  | s => s

/-- The text after a backslash that ends a line: the blanks and empty lines that follow are dropped. -/
def joinedLine? (s : List Char) : Option (List Char) := (lineBreak? (dropBlanks s)).map dropLines

/-- A string up to its closing quote. `fuel` is more than the length of the text. -/
def basic? : Nat → List Char → Option (List Char × List Char)
  | 0, _ => none
  | fuel + 1, s =>
    match s with
    | [] => none
    | '"' :: rest => some ([], rest)
    | '\\' :: rest => do
      let (c, rest) ← escape? rest
      let (text, rest) ← basic? fuel rest
      some (c :: text, rest)
    | c :: rest =>
      if isPlain c then (basic? fuel rest).map fun (text, rest) => (c :: text, rest) else none

/-- The end of a string of several lines, where at least three quotes stand: up to two belong to it. -/
def closing? (quote : Char) (s : List Char) : Option (List Char × List Char) :=
  let count := (s.takeWhile (· == quote)).length
  if count < 3 then none
  else
    let extra := min 2 (count - 3)
    some (List.replicate extra quote, s.drop (3 + extra))

/-- A string of several lines up to its closing quotes. `fuel` is more than the length of the text. -/
def multiBasic? : Nat → List Char → Option (List Char × List Char)
  | 0, _ => none
  | fuel + 1, s =>
    match closing? '"' s with
    | some found => some found
    | none =>
      match s with
      | [] => none
      | '\\' :: rest =>
        match joinedLine? rest with
        | some rest => multiBasic? fuel rest
        | none => do
          let (c, rest) ← escape? rest
          let (text, rest) ← multiBasic? fuel rest
          some (c :: text, rest)
      | c :: rest =>
        match lineBreak? s with
        | some rest => (multiBasic? fuel rest).map fun (text, rest) => ('\n' :: text, rest)
        | none =>
          if isPlain c then (multiBasic? fuel rest).map fun (text, rest) => (c :: text, rest)
          else none

/-- A literal string up to its closing quote. -/
def literal? (s : List Char) : Option (List Char × List Char) :=
  let isInside (c : Char) := isPlain c && c != '\''
  match s.dropWhile isInside with
  | '\'' :: rest => some (s.takeWhile isInside, rest)
  | _ => none

/-- A literal string of several lines up to its closing quotes. `fuel` is more than the length. -/
def multiLiteral? : Nat → List Char → Option (List Char × List Char)
  | 0, _ => none
  | fuel + 1, s =>
    match closing? '\'' s with
    | some found => some found
    | none =>
      match lineBreak? s, s with
      | some rest, _ => (multiLiteral? fuel rest).map fun (text, rest) => ('\n' :: text, rest)
      | none, c :: rest =>
        if isPlain c then (multiLiteral? fuel rest).map fun (text, rest) => (c :: text, rest) else none
      | none, [] => none

/-- The text behind opening quotes: a line break that follows at once is dropped. -/
def afterOpening (s : List Char) : List Char := (lineBreak? s).getD s

/-- A string of any sort. -/
def string? (s : List Char) : Option (String × List Char) :=
  let found :=
    match s with
    | '"' :: '"' :: '"' :: rest => multiBasic? (rest.length + 1) (afterOpening rest)
    | '"' :: rest => basic? (rest.length + 1) rest
    | '\'' :: '\'' :: '\'' :: rest => multiLiteral? (rest.length + 1) (afterOpening rest)
    | '\'' :: rest => literal? rest
    | _ => none
  found.map fun (text, rest) => (String.ofList text, rest)

/-! ## Keys -/

/-- Whether the character may stand in a key without quotes. -/
def isKeyChar (c : Char) : Bool :=
  ('a' ≤ c && c ≤ 'z') || ('A' ≤ c && c ≤ 'Z') || isAsciiDigit c || c == '_' || c == '-'

/-- One part of a key. -/
def keyPart? (s : List Char) : Option (String × List Char) :=
  match s with
  | '"' :: rest => (basic? (rest.length + 1) rest).map fun (text, rest) => (String.ofList text, rest)
  | '\'' :: rest => (literal? rest).map fun (text, rest) => (String.ofList text, rest)
  | _ =>
    let name := s.takeWhile isKeyChar
    if name.isEmpty then none else some (String.ofList name, s.dropWhile isKeyChar)

/-- The parts of a key, with dots between them. `fuel` bounds their number. -/
def key? : Nat → List Char → Option (List String × List Char)
  | 0, _ => none
  | fuel + 1, s => do
    let (part, rest) ← keyPart? (dropBlanks s)
    match dropBlanks rest with
    | '.' :: rest =>
      let (parts, rest) ← key? fuel rest
      some (part :: parts, rest)
    | rest => some ([part], rest)

/-! ## Numbers -/

/-- Digits with single underscores between them. -/
def digitRun? (isDigit : Char → Bool) (s : List Char) : Option (List Char × List Char) :=
  let isInside (c : Char) := isDigit c || c == '_'
  let run := s.takeWhile isInside
  let separated := (splitOn '_' run).all (!·.isEmpty)
  if run.isEmpty || !separated then none
  else some (run.filter (· != '_'), s.dropWhile isInside)

/-- A sign, and what follows it. -/
def signOf (s : List Char) : Bool × List Char :=
  match s with
  | '-' :: rest => (true, rest)
  | '+' :: rest => (false, rest)
  | _ => (false, s)

/-- The digits of a decimal integer, without zeros in front. -/
def wholePart? (s : List Char) : Option (List Char × List Char) := do
  let (digits, rest) ← digitRun? isAsciiDigit s
  if digits.head? == some '0' && digits.length ≠ 1 then none
  some (digits, rest)

/-- The exponent of a float. -/
def exponent? (s : List Char) : Option (Int × List Char) :=
  match s with
  | c :: rest =>
    if c == 'e' || c == 'E' then do
      let (negative, rest) := signOf rest
      let (digits, rest) ← digitRun? isAsciiDigit rest
      let value : Int := Decimal.valueOf digits
      some (if negative then -value else value, rest)
    else none
  | [] => none

/-- The float of a decimal; there is none that is positive and too large. -/
def floatOf? (d : Decimal) : Option Toml :=
  let x := Double.ofDecimal d
  if x == Double.infinite false then none else some (.float x)

/-- A word for a number that is none or is infinite. -/
def specialFloat? (s : List Char) : Option (Toml × List Char) :=
  let (negative, rest) := signOf s
  if ['i', 'n', 'f'].isPrefixOf rest then some (.float (Double.infinite negative), rest.drop 3)
  else if ['n', 'a', 'n'].isPrefixOf rest then some (.float (Double.nan negative), rest.drop 3)
  else none

/-- An integer of the base that its first characters tell. -/
def prefixed? (s : List Char) : Option (Toml × List Char) := do
  let base ←
    match s with
    | '0' :: 'x' :: _ => some 16
    | '0' :: 'o' :: _ => some 8
    | '0' :: 'b' :: _ => some 2
    | _ => none
  let (digits, rest) ← digitRun? (fun c => (digitValue? base c).isSome) (s.drop 2)
  let n ← digitsValue? base digits
  if n < integerBound then some (.integer n, rest) else none

/-- A number. -/
def number? (s : List Char) : Option (Toml × List Char) :=
  ((prefixed? s).orElse fun _ => specialFloat? s).orElse fun _ => do
    let (negative, unsigned) := signOf s
    let (whole, rest) ← wholePart? unsigned
    match rest with
    | '.' :: afterPoint =>
      let (fraction, rest) ← digitRun? isAsciiDigit afterPoint
      match exponent? rest with
      | some (exponent, rest) =>
        some (← floatOf? (Decimal.ofParts negative whole fraction exponent), rest)
      | none => some (← floatOf? (Decimal.ofParts negative whole fraction 0), rest)
    | _ =>
      match exponent? rest with
      | some (exponent, rest) =>
        some (← floatOf? (Decimal.ofParts negative whole [] exponent), rest)
      | none =>
        let n := Decimal.valueOf whole
        let value : Int := if negative then -n else n
        if n < integerBound || (negative && n = integerBound) then some (.integer value, rest)
        else none

/-! ## Dates and times -/

/-- A number of exactly so many digits within bounds. -/
def fixedNumber? (width low high : Nat) (s : List Char) : Option (Nat × List Char) := do
  let digits := s.take width
  let n ← digitsValue? 10 digits
  if digits.length = width && low ≤ n && n ≤ high then some (n, s.drop width) else none

/-- The text after a character that has to stand here. -/
def expect? (c : Char) (s : List Char) : Option (List Char) :=
  if s.head? == some c then some s.tail else none

/-- A number with zeros in front up to a width. -/
def padded (width n : Nat) : String :=
  let digits := toString n
  "".pushn '0' (width - digits.length) ++ digits

/-- The number of days of a month. -/
def monthLength (year month : Nat) : Nat :=
  if month = 2 then
    if year % 4 = 0 && (year % 100 ≠ 0 || year % 400 = 0) then 29 else 28
  else if [4, 6, 9, 11].contains month then 30
  else 31

/-- A date. -/
def date? (s : List Char) : Option (String × List Char) := do
  let (year, rest) ← fixedNumber? 4 0 9999 s
  let (month, rest) ← fixedNumber? 2 1 12 (← expect? '-' rest)
  let (day, rest) ← fixedNumber? 2 1 (monthLength year month) (← expect? '-' rest)
  some (padded 4 year ++ "-" ++ padded 2 month ++ "-" ++ padded 2 day, rest)

/-- The fraction of a second, up to nine digits, without zeros at the end. -/
def secondFraction? (s : List Char) : Option (String × List Char) :=
  match s with
  | '.' :: rest =>
    let digits := rest.takeWhile isAsciiDigit
    if digits.isEmpty then none
    else
      let kept := ((digits.take 9).reverse.dropWhile (· == '0')).reverse
      some (if kept.isEmpty then "" else String.ofList ('.' :: kept), rest.dropWhile isAsciiDigit)
  | _ => some ("", s)

/-- A time of day. -/
def time? (s : List Char) : Option (String × List Char) := do
  let (hour, rest) ← fixedNumber? 2 0 23 s
  let (minute, rest) ← fixedNumber? 2 0 59 (← expect? ':' rest)
  let (second, rest) ← fixedNumber? 2 0 60 (← expect? ':' rest)
  let (fraction, rest) ← secondFraction? rest
  some (padded 2 hour ++ ":" ++ padded 2 minute ++ ":" ++ padded 2 second ++ fraction, rest)

/-- An offset from UTC, empty if there is none. No offset at all is a positive one. -/
def offset? (s : List Char) : Option (String × List Char) :=
  match s with
  | [] => some ("", s)
  | c :: rest =>
    if c == 'Z' || c == 'z' then some ("Z", rest)
    else if c == '+' || c == '-' then do
      let (hour, rest) ← fixedNumber? 2 0 23 rest
      let (minute, rest) ← fixedNumber? 2 0 59 (← expect? ':' rest)
      let sign := if c == '-' && hour + minute ≠ 0 then "-" else "+"
      some (sign ++ padded 2 hour ++ ":" ++ padded 2 minute, rest)
    else some ("", s)

/-- A date, a time or both. -/
def datetime? (s : List Char) : Option (Toml × List Char) :=
  match date? s with
  | none => (time? s).map fun (text, rest) => (.datetime text, rest)
  | some (day, rest) =>
    match rest with
    | [] => some (.datetime day, rest)
    | c :: afterMark =>
      if c == 'T' || c == 't' || c == ' ' then
        match time? afterMark with
        | none => if c == ' ' then some (.datetime day, rest) else none
        | some (time, rest) => do
          let (offset, rest) ← offset? rest
          some (.datetime (day ++ "T" ++ time ++ offset), rest)
      else some (.datetime day, rest)

/-- Whether a date or a time stands here, and not a number. -/
def looksLikeDate (s : List Char) : Bool :=
  ((s.take 4).all isAsciiDigit && (s.drop 4).head? == some '-') ||
    ((s.take 2).all isAsciiDigit && (s.drop 2).head? == some ':')

end Grounded.Toml
