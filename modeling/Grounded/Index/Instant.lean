import Grounded.Text.Blank
import Grounded.Text.Digits
import Grounded.Text.Find

/-!
# Instants

The time at which an index was built, in UTC. It is written as a date, a time and a `Z`; it is read
with any offset, and with blanks where a reader can do without them.
-/

namespace Grounded

/-- A point in time: seconds since 1970, and nanoseconds of a second, two for a leap second. -/
structure Instant where
  seconds : Int
  nanos : Nat
deriving DecidableEq, Repr

namespace Instant

open Text

/-- The milliseconds since 1970, rounded down. -/
def milliseconds (t : Instant) : Int := t.seconds * 1000 + t.nanos / 1000000

/-! ## The calendar -/

/-- The number of days from the first of March of the year 0 to that of a year. -/
def daysToMarch (year : Int) : Int := 365 * year + year / 4 - year / 100 + year / 400

/-- The number of days since 1970 of a date. The year is counted from March on. -/
def daysOfDate (year : Int) (month day : Nat) : Int :=
  let shifted := if month ≤ 2 then year - 1 else year
  let monthFromMarch : Int := (month + 9) % 12
  daysToMarch shifted + (153 * monthFromMarch + 2) / 5 + day - 1 - 719468

/-- Whether the year has a 29th of February. -/
def isLeap (year : Int) : Bool := year % 4 == 0 && (year % 100 != 0 || year % 400 == 0)

/-- The number of days of a month. -/
def daysInMonth (year : Int) (month : Nat) : Nat :=
  if month = 2 then if isLeap year then 29 else 28
  else if [4, 6, 9, 11].contains month then 30
  else 31

/-- The date of a number of days since 1970. -/
def dateOfDays (days : Int) : Int × Nat × Nat :=
  let shifted := days + 719468
  let era := shifted / 146097
  let dayOfEra := shifted % 146097
  let yearOfEra := (dayOfEra - dayOfEra / 1460 + dayOfEra / 36524 - dayOfEra / 146096) / 365
  let dayOfYear := dayOfEra - (365 * yearOfEra + yearOfEra / 4 - yearOfEra / 100)
  let monthFromMarch := (5 * dayOfYear + 2) / 153
  let day := dayOfYear - (153 * monthFromMarch + 2) / 5 + 1
  let month := if monthFromMarch < 10 then monthFromMarch + 3 else monthFromMarch - 9
  (yearOfEra + era * 400 + (if month ≤ 2 then 1 else 0), month.toNat, day.toNat)

/-! ## Writing -/

/-- A number with zeros in front up to a width. -/
def padded (width n : Nat) : String :=
  let digits := toString n
  "".pushn '0' (width - digits.length) ++ digits

/-- The fraction of a second, to as many groups of three digits as needed. -/
def fractionText (nanos : Nat) : String :=
  if nanos = 0 then ""
  else if nanos % 1000000 = 0 then "." ++ padded 3 (nanos / 1000000)
  else if nanos % 1000 = 0 then "." ++ padded 6 (nanos / 1000)
  else "." ++ padded 9 nanos

/-- A year; those that do not have four digits are written with a sign. -/
def yearText (year : Int) : String :=
  if year < 0 then "-" ++ padded 4 year.natAbs
  else if year ≤ 9999 then padded 4 year.natAbs
  else "+" ++ padded 4 year.natAbs

/-- The date of the instant. -/
def dateText (t : Instant) : String :=
  let (year, month, day) := dateOfDays (t.seconds / 86400)
  yearText year ++ "-" ++ padded 2 month ++ "-" ++ padded 2 day

/-- The hour and the minute of the instant. -/
def minuteText (t : Instant) : String :=
  let ofDay := (t.seconds % 86400).toNat
  padded 2 (ofDay / 3600) ++ ":" ++ padded 2 (ofDay / 60 % 60)

/-- The instant as a text. -/
def toText (t : Instant) : String :=
  t.dateText ++ "T" ++ t.minuteText ++ ":" ++ padded 2 ((t.seconds % 86400).toNat % 60) ++
    fractionText t.nanos ++ "Z"

/-! ## Reading -/

/-- A number of at least one and at most `width` digits after blanks, and what follows. -/
def number? (width : Nat) (s : List Char) : Option (Nat × List Char) :=
  let s := trimStart s
  let digits := (s.take width).takeWhile isAsciiDigit
  if digits.isEmpty then none
  else (digitsValue? 10 digits).map (·, s.drop digits.length)

/-- A year: four digits, or any number of them after a sign. -/
def year? (s : List Char) : Option (Int × List Char) :=
  let s := trimStart s
  match s with
  | '-' :: rest => (number? rest.length rest).filter (fun _ => !(rest.head?.any isBlank)) |>.map
      fun (n, rest) => (-(n : Int), rest)
  | '+' :: rest => (number? rest.length rest).filter (fun _ => !(rest.head?.any isBlank)) |>.map
      fun (n, rest) => ((n : Int), rest)
  | _ => (number? 4 s).map fun (n, rest) => ((n : Int), rest)

/-- What follows a character that has to come next, after blanks. -/
def expect? (c : Char) (s : List Char) : Option (List Char) := afterStart? [c] (trimStart s)

/-- The nanoseconds of a fraction of a second, and what follows; digits after the ninth do not count. -/
def fraction? (s : List Char) : Option (Nat × List Char) :=
  match s with
  | '.' :: rest =>
    let digits := rest.takeWhile isAsciiDigit
    if digits.isEmpty then none
    else
      let kept := digits.take 9
      (digitsValue? 10 kept).map fun n =>
        (n * Nat.pow 10 (9 - kept.length), rest.dropWhile isAsciiDigit)
  | _ => some (0, s)

/-- The seconds of an offset from UTC, and what follows. -/
def offset? (s : List Char) : Option (Int × List Char) :=
  let s := trimStart s
  if ((s.take 3).map fun c => if 'A' ≤ c && c ≤ 'Z' then Char.ofNat (c.toNat + 32) else c) ==
      ['u', 't', 'c'] then some (0, s.drop 3)
  else
    match s with
    | [] => none
    | c :: rest =>
      if c == 'z' || c == 'Z' then some (0, rest)
      else if c != '+' && c != '-' && c != '\u2212' then none
      else do
        let hours ← digitsValue? 10 (rest.take 2)
        let rest := rest.drop 2
        let minuteDigits := (rest.dropWhile fun c => c == ':' || isBlank c).take 2
        let after := (rest.dropWhile fun c => c == ':' || isBlank c).drop 2
        let minutes ← digitsValue? 10 minuteDigits
        if minuteDigits.length ≠ 2 || 60 ≤ minutes || 24 ≤ hours then none
        let value : Int := hours * 3600 + minutes * 60
        some (if c == '+' then value else -value, after)

/-- The first year of the calendar. -/
def firstYear : Int := -262143

/-- The last year of the calendar. -/
def lastYear : Int := 262142

/-- Whether the instant falls into a year of the calendar. -/
def inCalendar (t : Instant) : Bool :=
  daysOfDate firstYear 1 1 * 86400 ≤ t.seconds && t.seconds < daysOfDate (lastYear + 1) 1 1 * 86400

/-- The instant that a text tells. Both the date as written and the one in UTC are in the calendar. -/
def ofText? (text : String) : Option Instant := do
  let (year, rest) ← year? text.toList
  let (month, rest) ← number? 2 (← expect? '-' rest)
  let (day, rest) ← number? 2 (← expect? '-' rest)
  let rest ←
    match rest with
    | c :: rest => if c == 't' || c == 'T' || c == ' ' then some rest else none
    | [] => none
  let (hour, rest) ← number? 2 rest
  let (minute, rest) ← number? 2 (← expect? ':' rest)
  let (second, rest) ← number? 2 (← expect? ':' rest)
  let (nanos, rest) ← fraction? rest
  let (offset, rest) ← offset? rest
  if !(trimStart rest).isEmpty then none
  if month = 0 || 12 < month || day = 0 || daysInMonth year month < day then none
  if year < firstYear || lastYear < year || 24 ≤ hour || 60 ≤ minute || 61 ≤ second then none
  let days := daysOfDate year month day
  let seconds := days * 86400 + hour * 3600 + minute * 60 + (if second = 60 then 59 else second)
  let instant : Instant := ⟨seconds - offset, nanos + (if second = 60 then 1000000000 else 0)⟩
  if instant.inCalendar then some instant else none

end Instant

end Grounded
