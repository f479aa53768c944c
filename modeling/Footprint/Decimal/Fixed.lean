import Footprint.Decimal.Dyadic

namespace Footprint.Decimal

/-- A quotient rounded to the nearest whole number, from halfway to the even one. -/
def roundDiv (numerator denominator : Nat) : Nat :=
  let quotient := numerator / denominator
  let twice := 2 * (numerator % denominator)
  if twice < denominator ∨ (twice = denominator ∧ quotient % 2 = 0) then quotient
  else quotient + 1

def padded (width n : Nat) : String :=
  let digits := Nat.toDigits 10 n
  .ofList (List.replicate (width - digits.length) '0' ++ digits)

def fixedMagnitude (places : Nat) (d : Dyadic) : String :=
  let units := roundDiv (d.numerator * tenTo places) d.denominator
  toString (units / tenTo places) ++ "." ++ padded places (units % tenTo places)

def fixed (places : Nat) (x : Float32) : String :=
  match valueOf x with
  | .notANumber => "NaN"
  | .infinite isNegative => if isNegative then "-inf" else "inf"
  | .finite isNegative d => (if isNegative then "-" else "") ++ fixedMagnitude places d

end Footprint.Decimal
