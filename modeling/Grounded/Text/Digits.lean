/-!
# ASCII digits

Numbers in files and on the command line are written with ASCII digits.
-/

namespace Grounded.Text

/-- Whether the character is an ASCII digit. -/
def isAsciiDigit (c : Char) : Bool := '0' ≤ c && c ≤ '9'

/-- The value of a digit in a base of at most sixteen, in either case. -/
def digitValue? (base : Nat) (c : Char) : Option Nat :=
  let value :=
    if '0' ≤ c && c ≤ '9' then c.toNat - '0'.toNat
    else if 'a' ≤ c && c ≤ 'f' then c.toNat - 'a'.toNat + 10
    else if 'A' ≤ c && c ≤ 'F' then c.toNat - 'A'.toNat + 10
    else base
  if value < base then some value else none

/-- The value of a text that is all digits of the base. -/
def digitsValue? (base : Nat) (digits : List Char) : Option Nat :=
  digits.foldl (fun n c => n.bind fun n => (digitValue? base c).map (base * n + ·)) (some 0)

/-- The least number that a machine word does not hold. -/
def wordBound : Nat := 0x10000000000000000

/-- The least number that half a machine word does not hold. -/
def halfWordBound : Nat := 0x100000000

/-- Reads an unsigned number: digits, after a plus sign or not, of a value below `bound`. -/
def natural? (bound : Nat) (s : List Char) : Option Nat :=
  let digits := if s.head? == some '+' then s.tail else s
  if digits.isEmpty then none
  else (digitsValue? 10 digits).filter (· < bound)

end Grounded.Text
