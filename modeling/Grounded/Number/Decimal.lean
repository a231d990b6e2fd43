import Grounded.Number.Single

/-!
# Decimal numbers

Numbers are read and shown in decimal. A decimal is exact: digits and a power of ten. Reading one as a
binary number rounds to nearest; showing a binary number either rounds its exact decimal to a fixed
number of places or gives the shortest decimal that reads back as the same number.
-/

namespace Grounded

/-- The number `± digits × 10 ^ exponent`. -/
structure Decimal where
  negative : Bool
  digits : Nat
  exponent : Int
deriving DecidableEq, Repr

/-- The nearest whole number to `n / d`, the even one if there are two. -/
def roundEven (n d : Nat) : Nat :=
  let q := n / d
  let twice := 2 * (n % d)
  if d < twice || (twice == d && q % 2 == 1) then q + 1 else q

namespace Decimal

/-- The value of decimal digits, the most significant first. -/
def valueOf (digits : List Char) : Nat :=
  digits.foldl (fun n c => 10 * n + (c.toNat - '0'.toNat)) 0

/-- The number written as a whole part, a fraction and an exponent. -/
def ofParts (negative : Bool) (whole fraction : List Char) (exponent : Int) : Decimal :=
  ⟨negative, valueOf (whole ++ fraction), exponent - fraction.length⟩

/--
The number with an exponent that is fit for computing. What is beyond the bounds is beyond every binary
number as well, or too near to zero for one, and stays so.
-/
def clamp (d : Decimal) : Decimal :=
  let low : Int := -(400 + d.digits.log2 : Nat)
  { d with exponent := if d.digits = 0 then 0 else max low (min 400 d.exponent) }

/-- The nearest single. -/
def toSingle (d : Decimal) : Single :=
  let d := d.clamp
  let x := Float32.ofScientific d.digits (d.exponent < 0) d.exponent.natAbs
  Single.withSign d.negative ⟨x.toBits⟩

/-- The exact decimal of `± mantissa × 2 ^ exponent`. -/
def ofBinary (negative : Bool) (mantissa : Nat) (exponent : Int) : Decimal :=
  if exponent < 0 then ⟨negative, mantissa * Nat.pow 5 exponent.natAbs, exponent⟩
  else ⟨negative, mantissa * Nat.pow 2 exponent.natAbs, 0⟩

/-- The sign as it is shown. -/
def sign (negative : Bool) : String := if negative then "-" else ""

/-- A whole number of units of `10 ^ -places`, with the decimal point in its place. -/
def placed (units places : Nat) : String :=
  if places = 0 then toString units
  else
    let low := toString (units % Nat.pow 10 places)
    toString (units / Nat.pow 10 places) ++ "." ++ "".pushn '0' (places - low.length) ++ low

/-- The number rounded to `places` decimal places. -/
def fixed (places : Nat) (d : Decimal) : String :=
  let shift := d.exponent + places
  let units :=
    if shift < 0 then roundEven d.digits (Nat.pow 10 shift.natAbs)
    else d.digits * Nat.pow 10 shift.natAbs
  sign d.negative ++ placed units places

/-- The number in full, without an exponent. -/
def plain (d : Decimal) : String :=
  if d.exponent < 0 then sign d.negative ++ placed d.digits d.exponent.natAbs
  else sign d.negative ++ toString (d.digits * Nat.pow 10 d.exponent.natAbs)

/--
The multiple of `unit` nearest to `value` within the bounds, counted in units: `low` and `high` belong
to the range when `closed` holds.
-/
def nearestWithin (closed : Bool) (low value high unit : Nat) : Option Nat :=
  let below := value / unit
  let above := below + 1
  let belowOk := if closed then low ≤ below * unit else low < below * unit
  let aboveOk := if closed then above * unit ≤ high else above * unit < high
  if belowOk && (!aboveOk || 2 * (value - below * unit) ≤ unit) then some below
  else if aboveOk then some above
  else none

/--
The shortest decimal within bounds, all numbers given as numerators over `denominator`: tries the
powers of ten from `10 ^ top` downwards, at most `fuel` of them.
-/
def shortestWithin (closed : Bool) (low value high denominator : Nat) :
    Nat → Int → Option (Nat × Int)
  | 0, _ => none
  | fuel + 1, top =>
    let found :=
      if top < 0 then
        let scale := Nat.pow 10 top.natAbs
        nearestWithin closed (low * scale) (value * scale) (high * scale) denominator
      else nearestWithin closed low value high (denominator * Nat.pow 10 top.natAbs)
    match found with
    | some digits => some (digits, top)
    | none => shortestWithin closed low value high denominator fuel (top - 1)

/--
The shortest decimal that is nearer to `mantissa × 2 ^ exponent` than to its neighbours. `half` says
that the neighbour below is only half as far as the one above.
-/
def shortest (negative : Bool) (mantissa : Nat) (exponent : Int) (half : Bool) : Decimal :=
  if mantissa = 0 then ⟨negative, 0, 0⟩
  else
    let value := 4 * mantissa
    let low := if half then value - 1 else value - 2
    let scale := if exponent < 2 then 1 else Nat.pow 2 (exponent - 2).natAbs
    let denominator := if exponent < 2 then Nat.pow 2 (2 - exponent).natAbs else 1
    let whole : Nat := value * scale / denominator
    let top := Int.ofNat (toString whole).length
    match shortestWithin (mantissa % 2 == 0) (low * scale) (value * scale) ((value + 2) * scale)
        denominator 1200 top with
    | some (digits, exponent) => ⟨negative, digits, exponent⟩
    | none => ofBinary negative mantissa exponent

end Decimal

namespace Single

/-- The mantissa and the exponent of a finite number's absolute value. -/
def parts (x : Single) : Nat × Int :=
  let field : Nat := x.magnitude / 0x800000
  if field = 0 then (x.magnitude, -149)
  else (x.magnitude % 0x800000 + 0x800000, (field : Int) - 150)

/-- The exact decimal of a finite number. -/
def toDecimal (x : Single) : Decimal := Decimal.ofBinary x.isNegative x.parts.1 x.parts.2

/-- The shortest decimal that reads back as the same finite number. -/
def shortest (x : Single) : Decimal :=
  Decimal.shortest x.isNegative x.parts.1 x.parts.2
    (x.magnitude % 0x800000 == 0 && 0x1000000 ≤ x.magnitude)

/-- The number with two decimal places. -/
def twoPlaces (x : Single) : String :=
  if x.isNaN then "NaN"
  else if x.isFinite then x.toDecimal.fixed 2
  else Decimal.sign x.isNegative ++ "inf"

end Single

end Grounded
