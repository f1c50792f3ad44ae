import Stencil.Number.Shortest

/-!
# Numbers as text

Two ways to write a number.  Rendered output uses `Number.text`: the shortest decimal that reads
back, always with a decimal point in its place and never with an exponent, and no point at all for
a whole number.  Token listings use `Number.listing`, which differs for whole numbers only: they
are written out exactly and keep one decimal.
-/

namespace Stencil.Number

/-- The decimal digits of `coefficient * 10 ^ exponent`, the point in its place.  The fraction ends
in no zero, and a fraction without digits takes its point along. -/
def Decimal.text (decimal : Decimal) : String :=
  let digits := Nat.toDigits 10 (decimal.coefficient * Nat.pow 10 decimal.exponent.toNat)
  let places := (-decimal.exponent).toNat
  let padded := List.replicate (places + 1 - digits.length) '0' ++ digits
  let whole := padded.take (padded.length - places)
  let fraction := padded.drop (padded.length - places)
  let kept := (fraction.reverse.dropWhile (· == '0')).reverse
  String.ofList (if kept.isEmpty then whole else whole ++ '.' :: kept)

/-- The sign that is written in front of a magnitude. -/
def sign (negative : Bool) : String :=
  if negative then "-" else ""

/-- The text of a number in rendered output. -/
def text (number : Float) : String :=
  match read number with
  | .nan => "NaN"
  | .infinite negative => sign negative ++ "inf"
  | .finite negative magnitude => sign negative ++ magnitude.shortest.text

/-- The text of a number in a token listing. -/
def listing (number : Float) : String :=
  match read number with
  | .finite negative magnitude =>
    match magnitude.toNat? with
    | some whole => sign negative ++ toString whole ++ ".0"
    | none => text number
  | _ => text number

end Stencil.Number
