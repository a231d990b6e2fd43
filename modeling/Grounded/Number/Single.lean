/-!
# Single-precision numbers

Scores and embeddings are IEEE 754 singles. A number is kept as its bits, so that what is stored and
loaded can be told apart bit by bit, payloads of NaNs included. Arithmetic is that of `Float32`;
comparisons read the bits.
-/

namespace Grounded

/-- An IEEE 754 single, by its bits: the sign, eight bits of exponent, twenty-three of fraction. -/
structure Single where
  bits : UInt32
deriving DecidableEq, Repr

namespace Single

/-- The negative zero, which leaves every other number unchanged when it is added. -/
def negativeZero : Single := ⟨0x80000000⟩

/-- The quiet NaN. -/
def nan : Single := ⟨0x7FC00000⟩

/-- The bits without the sign. Among non-NaNs they grow with the absolute value. -/
def magnitude (x : Single) : Nat := x.bits.toNat % 0x80000000

/-- Whether the sign bit is set. -/
def isNegative (x : Single) : Bool := 0x80000000 ≤ x.bits.toNat

/-- The magnitude of infinity: finite numbers are below it and NaNs above. -/
def infinity : Nat := 0x7F800000

/-- Whether the number is neither infinite nor NaN. -/
def isFinite (x : Single) : Bool := x.magnitude < infinity

/-- Whether the bits stand for no number. -/
def isNaN (x : Single) : Bool := infinity < x.magnitude

/-- An integer that orders the non-NaNs as numbers; both zeros get 0. -/
def signed (x : Single) : Int := if x.isNegative then -(x.magnitude : Int) else x.magnitude

/-- Whether `x` is greater than `y` as a number. A NaN is not greater than anything, nor less. -/
def gt (x y : Single) : Bool := !x.isNaN && !y.isNaN && y.signed < x.signed

/--
The place of the bits in the total order: negative NaNs, the negative numbers, the negative zero, the
positive zero, the positive numbers, positive NaNs.
-/
def rank (x : Single) : Int := if x.isNegative then -(x.magnitude : Int) - 1 else x.magnitude

/-- The sum, rounded to nearest. -/
def add (x y : Single) : Single := ⟨(Float32.ofBits x.bits + Float32.ofBits y.bits).toBits⟩

/-- The product, rounded to nearest. -/
def mul (x y : Single) : Single := ⟨(Float32.ofBits x.bits * Float32.ofBits y.bits).toBits⟩

/-- The sum from left to right. -/
def sum (xs : List Single) : Single := xs.foldl add negativeZero

/-- The dot product of two vectors, up to the end of the shorter one. -/
def dot (xs ys : List Single) : Single := sum (List.zipWith mul xs ys)

/-- The bits of a float, with the sign of the given flag. -/
def withSign (negative : Bool) (x : Single) : Single :=
  if negative then ⟨x.bits ||| 0x80000000⟩ else x

end Single

end Grounded
