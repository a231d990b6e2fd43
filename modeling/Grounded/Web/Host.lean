import Grounded.Text.Digits
import Grounded.Text.Find

/-!
# Hosts

The host of an address is a domain name or the number of a machine, of 32 or of 128 bits. A long number
stands in brackets, in groups of hexadecimal digits; what else stands for a host is a name at first. Bytes
of a name can be written as percent signs with two digits, and how the name is written in ASCII is up to
rules for names in all scripts. A name whose last label is a number must be a number as a whole.
-/

namespace Grounded

open Text

namespace Url

/-- The bytes of a text. -/
def bytes (s : List Char) : List UInt8 := (String.ofList s).toUTF8.toList

/-- Bytes with those put in that percent signs and two digits stand for. -/
def decode : List UInt8 → List UInt8
  | 0x25 :: a :: b :: rest =>
    match digitValue? 16 (Char.ofNat a.toNat), digitValue? 16 (Char.ofNat b.toNat) with
    | some high, some low => (16 * high + low).toUInt8 :: decode rest
    | _, _ => 0x25 :: decode (a :: b :: rest)
  | b :: rest => b :: decode rest
  | [] => []

end Url

/--
Rules for the names of domains: what a name is in ASCII, given its bytes; some bytes are no name. Names
in other scripts need tables, which are not part of the library: it is handed the rules.
-/
abbrev NameRules := List UInt8 → Option (List Char)

namespace NameRules

/-- Characters that no name may hold. -/
def isForbidden (c : Char) : Bool := c ≤ ' ' || c == '\x7f' || "#%/:<>?@[\\]^|".toList.contains c

/--
The rules for names in ASCII, which are written in small letters. Names in other scripts are none, and
labels that stand for some are taken as they are.
-/
def ascii : NameRules := fun bytes =>
  let name := bytes.map fun b => (Char.ofNat b.toNat).toLower
  if bytes.all (· < 0x80) && !name.any isForbidden then some name else none

end NameRules

/-- The host of an address. -/
inductive Host where
  | domain (name : List Char)
  | v4 (number : UInt32)
  | v6 (pieces : Vector UInt16 8)
deriving DecidableEq, Repr

namespace Host

/-! ## Numbers of 32 bits -/

/-- The labels of a name; a dot at its end makes none. -/
def labels (name : List Char) : List (List Char) :=
  let parts := splitOn '.' name
  if parts.getLast? == some [] then parts.dropLast else parts

/-- The number that a label is, in the base that its first digits tell. -/
def labelNumber? : List Char → Option Nat
  | [] => none
  | '0' :: 'x' :: digits => digitsValue? 16 digits
  | '0' :: 'X' :: digits => digitsValue? 16 digits
  | '0' :: c :: digits => digitsValue? 8 (c :: digits)
  | digits => digitsValue? 10 digits

/-- Whether the last label of a name is a number, or meant to be one. -/
def endsInNumber (name : List Char) : Bool :=
  match (labels name).getLast? with
  | some label => !label.isEmpty && label.all isAsciiDigit || (labelNumber? label).isSome
  | none => false

/-- The number of the labels of a name: each but the last is a byte, and the last one all the other bytes. -/
def v4? (name : List Char) : Option UInt32 := do
  let numbers ← (labels name).mapM labelNumber?
  let last ← numbers.getLast?
  let bytes := numbers.dropLast
  let bound := Nat.pow 256 (4 - bytes.length)
  if numbers.length ≤ 4 && bytes.all (· < 256) && last < bound then
    some (bytes.foldl (256 * · + ·) 0 * bound + last).toUInt32
  else none

/-- The number as four bytes in decimal. -/
def v4Text (n : UInt32) : List Char :=
  joinWith ['.'] ([n.toNat / 0x1000000, n.toNat / 0x10000, n.toNat / 0x100, n.toNat].map fun b =>
    Nat.toDigits 10 (b % 256))

/-! ## Numbers of 128 bits -/

/-- The piece that a group of digits is. -/
def piece? (group : List Char) : Option UInt16 :=
  if group.isEmpty || 4 < group.length then none
  else (digitsValue? 16 group).map Nat.toUInt16

/-- The byte that decimal digits are, without a zero before others. -/
def byte? (digits : List Char) : Option Nat :=
  if digits.isEmpty || 1 < digits.length && digits.head? == some '0' then none
  else (digitsValue? 10 digits).filter (· < 256)

/-- The two pieces that four bytes in decimal are. -/
def tail? (s : List Char) : Option (List UInt16) := do
  match ← (splitOn '.' s).mapM byte? with
  | [a, b, c, d] => some [(256 * a + b).toUInt16, (256 * c + d).toUInt16]
  | _ => none

/-- The pieces of groups; the last group of all may be four bytes. -/
def groups? (ends : Bool) : List (List Char) → Option (List UInt16)
  | [] => some []
  | [group] => if ends && group.contains '.' then tail? group else (piece? group).map ([·])
  | group :: rest => do return (← piece? group) :: (← groups? ends rest)

/-- The pieces of a text of groups with colons between. -/
def pieces? (ends : Bool) (s : List Char) : Option (List UInt16) :=
  if s.isEmpty then some [] else groups? ends (splitOn ':' s)

/-- A number, if there are eight pieces. -/
def ofPieces? (pieces : List UInt16) : Option (Vector UInt16 8) :=
  if h : pieces.length = 8 then some ⟨pieces.toArray, h⟩ else none

/-- The number that groups are; two colons stand once for all pieces that are missing. -/
def v6? (s : List Char) : Option (Vector UInt16 8) :=
  match cutFirst [':', ':'] s with
  | none => (pieces? true s).bind ofPieces?
  | some (before, after) => do
    let front ← pieces? false before
    let back ← pieces? true after
    if front.length + back.length < 8 then
      ofPieces? (front ++ List.replicate (8 - front.length - back.length) 0 ++ back)
    else none

/-- How many pieces at the start are zero. -/
def zeros (pieces : List UInt16) : Nat := (pieces.takeWhile (· == 0)).length

/-- Where the most pieces in a row are zero, the first place if there are several. -/
def longestZeros (pieces : List UInt16) : Nat :=
  (List.range pieces.length).foldl
    (fun best i => if zeros (pieces.drop best) < zeros (pieces.drop i) then i else best) 0

/-- Pieces as groups with colons between. -/
def groupsText (pieces : List UInt16) : List Char :=
  joinWith [':'] (pieces.map fun p => Nat.toDigits 16 p.toNat)

/-- The number as groups, with two colons for the longest row of zeros. -/
def v6Text (pieces : List UInt16) : List Char :=
  let start := longestZeros pieces
  let count := zeros (pieces.drop start)
  if count < 2 then groupsText pieces
  else groupsText (pieces.take start) ++ [':', ':'] ++ groupsText (pieces.drop (start + count))

/-! ## Hosts of all kinds -/

/-- The host that a text is. -/
def parse? (rules : NameRules) (s : List Char) : Option Host :=
  match s with
  | '[' :: rest => if rest.getLast? == some ']' then (v6? rest.dropLast).map .v6 else none
  | _ => do
    let name ← rules (Url.decode (Url.bytes s))
    if name.isEmpty then none
    else if endsInNumber name then (v4? name).map .v4
    else some (.domain name)

/-- What the host is called. -/
def name : Host → List Char
  | domain name => name
  | v4 number => v4Text number
  | v6 pieces => v6Text pieces.toList

/-- The host as it stands in an address. -/
def toText : Host → List Char
  | v6 pieces => '[' :: v6Text pieces.toList ++ [']']
  | host => host.name

end Host

end Grounded
