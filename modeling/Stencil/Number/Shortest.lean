import Stencil.Number.Binary64

/-!
# The shortest decimal of a binary number

A decimal *reads back* as a binary number when it lies in the interval of values that round to that
number.  `Magnitude.shortest` finds, among the decimals with the fewest digits that read back, the
one nearest to the number; of two equally near it takes the larger.

The search looks at one digit, then two, and so on.  With `n` digits the candidates are the two
neighbours of the number on the grid of `n`-digit decimals: if any point of the grid lies in the
interval, one of the neighbours does.  Seventeen digits always suffice.
-/

namespace Stencil.Number

/-- The decimal `coefficient * 10 ^ exponent`. -/
structure Decimal where
  coefficient : Nat
  exponent : Int
  deriving DecidableEq, Repr

def Magnitude.toDecimal (magnitude : Magnitude) : Decimal :=
  if 0 ≤ magnitude.exponent then ⟨magnitude.numerator, 0⟩
  else ⟨magnitude.significand * Nat.pow 5 (-magnitude.exponent).toNat, magnitude.exponent⟩

/-- The greatest number of digits that a search for a decimal has to try. -/
def maxDigits : Nat := 17

/-- Values that round to a binary number, with the number itself, as numerators over one common
denominator.  The ends belong to the interval exactly when the significand is even, because a tie
is rounded to the even neighbour. -/
structure RoundingInterval where
  low : Nat
  value : Nat
  high : Nat
  denominator : Nat
  closed : Bool
  deriving DecidableEq, Repr

/-- The values that round to a magnitude.  They reach half way to each neighbour, and the neighbour
below a power of two is only half as far away, except at the least exponent. -/
def Magnitude.roundingInterval (magnitude : Magnitude) : RoundingInterval :=
  let unit := Nat.pow 2 magnitude.exponent.toNat
  let narrow :=
    magnitude.significand = fractionCount ∧ leastExponent < magnitude.exponent
  { low := (4 * magnitude.significand - if narrow then 1 else 2) * unit
    value := 4 * magnitude.significand * unit
    high := (4 * magnitude.significand + 2) * unit
    denominator := 4 * magnitude.denominator
    closed := magnitude.significand % 2 = 0 }

/-- Whether `numerator / denominator` reads back, the fraction being over any denominator. -/
def RoundingInterval.contains (interval : RoundingInterval) (numerator denominator : Nat) : Bool :=
  let low := interval.low * denominator
  let here := numerator * interval.denominator
  let high := interval.high * denominator
  if interval.closed then low ≤ here && here ≤ high else low < here && here < high

/-- The integer `place` with `10 ^ (place - 1) ≤ numerator / denominator < 10 ^ place`, for a
positive fraction: from the lengths of the two numbers it is known up to one. -/
def decimalPlace (numerator denominator : Nat) : Int :=
  let length (number : Nat) : Int := (Nat.toDigits 10 number).length
  let guess := length numerator - length denominator
  let below := numerator * Nat.pow 10 (-guess).toNat < denominator * Nat.pow 10 guess.toNat
  if below then guess else guess + 1

/-- Of the two neighbours of the number on the grid of multiples of `10 ^ exponent`, the one that
reads back; of two that do, the nearer, and the upper one if both are equally near. -/
def RoundingInterval.onGrid? (interval : RoundingInterval) (exponent : Int) : Option Decimal :=
  let up := Nat.pow 10 exponent.toNat
  let down := Nat.pow 10 (-exponent).toNat
  let scaled := interval.value * down
  let step := interval.denominator * up
  let below := scaled / step
  let lower := interval.contains (below * up) down
  let upper := interval.contains ((below + 1) * up) down
  if lower && (!upper || 2 * (scaled % step) < step) then some ⟨below, exponent⟩
  else if upper then some ⟨below + 1, exponent⟩
  else none

/-- The shortest decimal that reads back as the magnitude. -/
def Magnitude.shortest (magnitude : Magnitude) : Decimal :=
  if magnitude.significand = 0 then
    ⟨0, 0⟩
  else
    let interval := magnitude.roundingInterval
    let place := decimalPlace interval.value interval.denominator
    let grids := (List.range maxDigits).map fun digits => place - (digits + 1 : Nat)
    match grids.findSome? interval.onGrid? with
    | some decimal => decimal
    | none => magnitude.toDecimal

end Stencil.Number
