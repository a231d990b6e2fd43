import Grounded.Number.Decimal

/-!
# Double-precision numbers

Configuration files and JSON texts hold numbers in double precision; they are narrowed to singles when
they are used. A double is kept as its bits.
-/

namespace Grounded

/-- An IEEE 754 double, by its bits: the sign, eleven bits of exponent, fifty-two of fraction. -/
structure Double where
  bits : UInt64
deriving DecidableEq, Repr

namespace Double

/-- The bits without the sign. -/
def magnitude (x : Double) : Nat := x.bits.toNat % 0x8000000000000000

/-- Whether the sign bit is set. -/
def isNegative (x : Double) : Bool := 0x8000000000000000 ≤ x.bits.toNat

/-- The magnitude of infinity: finite numbers are below it and NaNs above. -/
def infinity : Nat := 0x7FF0000000000000

/-- The infinity of the given sign. -/
def infinite (negative : Bool) : Double :=
  if negative then ⟨0xFFF0000000000000⟩ else ⟨0x7FF0000000000000⟩

/-- The quiet NaN of the given sign. -/
def nan (negative : Bool) : Double :=
  if negative then ⟨0xFFF8000000000000⟩ else ⟨0x7FF8000000000000⟩

/-- Whether the number is neither infinite nor NaN. -/
def isFinite (x : Double) : Bool := x.magnitude < infinity

/-- Whether the bits stand for no number. -/
def isNaN (x : Double) : Bool := infinity < x.magnitude

/-- The mantissa and the exponent of a finite number's absolute value. -/
def parts (x : Double) : Nat × Int :=
  let field : Nat := x.magnitude / 0x10000000000000
  if field = 0 then (x.magnitude, -1074)
  else (x.magnitude % 0x10000000000000 + 0x10000000000000, (field : Int) - 1075)

/-- The exact decimal of a finite number. -/
def toDecimal (x : Double) : Decimal := Decimal.ofBinary x.isNegative x.parts.1 x.parts.2

/-- The double nearest to a decimal. -/
def ofDecimal (d : Decimal) : Double :=
  let d := d.clamp
  let bits := (Float.ofScientific d.digits (d.exponent < 0) d.exponent.natAbs).toBits
  if d.negative then ⟨bits ||| 0x8000000000000000⟩ else ⟨bits⟩

/-- The single nearest to the number. -/
def toSingle (x : Double) : Single :=
  if x.isNaN then Single.withSign x.isNegative Single.nan
  else if x.isFinite then x.toDecimal.toSingle
  else Single.withSign x.isNegative ⟨0x7F800000⟩

/-- The same number in double precision. -/
def ofSingle (x : Single) : Double :=
  if x.isNaN then nan x.isNegative
  else if x.isFinite then ofDecimal x.toDecimal
  else infinite x.isNegative

/-- The shortest decimal that reads back as the same finite number. -/
def shortest (x : Double) : Decimal :=
  Decimal.shortest x.isNegative x.parts.1 x.parts.2
    (x.magnitude % 0x10000000000000 == 0 && 0x20000000000000 ≤ x.magnitude)

end Double

end Grounded
