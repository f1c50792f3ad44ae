/-!
# Binary64 numbers taken apart

Every finite number of the double format is, up to its sign, `significand * 2 ^ exponent` for a
natural number and an integer.  Texts of numbers are computed from these two, in exact arithmetic.
-/

namespace Stencil.Number

/-- The magnitude `significand * 2 ^ exponent`. -/
structure Magnitude where
  significand : Nat
  exponent : Int
  deriving DecidableEq, Repr

namespace Magnitude

/-- The numerator of the magnitude written as a fraction over `denominator`. -/
def numerator (magnitude : Magnitude) : Nat :=
  magnitude.significand * Nat.pow 2 magnitude.exponent.toNat

/-- The power of two below the fraction line; one unless the exponent is negative. -/
def denominator (magnitude : Magnitude) : Nat :=
  Nat.pow 2 (-magnitude.exponent).toNat

/-- The natural number that the magnitude is, if it is one. -/
def toNat? (magnitude : Magnitude) : Option Nat :=
  if magnitude.numerator % magnitude.denominator = 0 then
    some (magnitude.numerator / magnitude.denominator)
  else
    none

end Magnitude

/-- What the 64 bits of a number stand for. -/
inductive Reading where
  | nan
  | infinite (negative : Bool)
  | finite (negative : Bool) (magnitude : Magnitude)
  deriving DecidableEq, Repr

/-- The number of values of the significand field, which has 52 bits. -/
def fractionCount : Nat := Nat.pow 2 52

/-- The number of values of the exponent field, which has 11 bits. -/
def fieldCount : Nat := Nat.pow 2 11

/-- The exponent of the numbers closest to zero. -/
def leastExponent : Int := -1074

/-- Read the sign, the exponent field and the significand field.  An exponent field of zero marks
the numbers closest to zero, which lack the implicit leading bit; a field of ones marks the
infinities and NaN. -/
def readBits (bits : Nat) : Reading :=
  let negative := decide (fractionCount * fieldCount ≤ bits)
  let field := bits / fractionCount % fieldCount
  let fraction := bits % fractionCount
  if field + 1 = fieldCount then
    if fraction = 0 then .infinite negative else .nan
  else if field = 0 then
    .finite negative ⟨fraction, leastExponent⟩
  else
    .finite negative ⟨fractionCount + fraction, leastExponent + (field - 1 : Nat)⟩

def read (number : Float) : Reading :=
  readBits number.toBits.toNat

end Stencil.Number
