namespace Footprint.Decimal

def tenTo (n : Nat) : Nat :=
  Nat.pow 10 n

/-- A magnitude, `significand * 2 ^ exponent`. -/
structure Dyadic where
  significand : Nat
  exponent : Int
  deriving DecidableEq, Repr

namespace Dyadic

def numerator (d : Dyadic) : Nat :=
  d.significand <<< d.exponent.toNat

def denominator (d : Dyadic) : Nat :=
  1 <<< (-d.exponent).toNat

end Dyadic

inductive Value where
  | notANumber
  | infinite (isNegative : Bool)
  | finite (isNegative : Bool) (magnitude : Dyadic)
  deriving DecidableEq, Repr

def fractionLimit : Nat := 0x800000

def exponentLimit : Nat := 0x100

def valueOf (x : Float32) : Value :=
  let bits : Nat := x.toBits.toNat
  let fraction : Nat := bits % fractionLimit
  let exponent : Nat := bits / fractionLimit % exponentLimit
  let isNegative := fractionLimit * exponentLimit ≤ bits
  if exponent + 1 = exponentLimit then
    if fraction = 0 then .infinite isNegative else .notANumber
  else if exponent = 0 then
    .finite isNegative ⟨fraction, -149⟩
  else
    .finite isNegative ⟨fractionLimit + fraction, (exponent : Int) - 150⟩

end Footprint.Decimal
