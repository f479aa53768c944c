import Footprint.Decimal.Dyadic

namespace Footprint.Decimal

/-- A decimal, `digits * 10 ^ exponent`. -/
structure Scaled where
  digits : Nat
  exponent : Int
  deriving DecidableEq, Repr

def Scaled.compare (s : Scaled) (d : Dyadic) : Ordering :=
  Ord.compare (s.digits * tenTo s.exponent.toNat * d.denominator)
    (d.numerator * tenTo (-s.exponent).toNat)

structure Interval where
  lower : Dyadic
  upper : Dyadic
  closed : Bool
  deriving DecidableEq, Repr

/--
The interval of a magnitude. Below the smallest significand of an exponent the numbers stand twice
as close, except at the smallest exponent.
-/
def Interval.of (d : Dyadic) : Interval where
  lower :=
    ⟨if d.significand = fractionLimit ∧ d.exponent ≠ -149 then 4 * d.significand - 1
      else 4 * d.significand - 2, d.exponent - 2⟩
  upper := ⟨4 * d.significand + 2, d.exponent - 2⟩
  closed := d.significand % 2 = 0

def Interval.contains (i : Interval) (s : Scaled) : Bool :=
  match s.compare i.lower, s.compare i.upper with
  | .gt, .lt => true
  | .eq, _ => i.closed
  | _, .eq => i.closed
  | _, _ => false

def decimalLength (d : Dyadic) : Int :=
  if d.denominator ≤ d.numerator then
    (Nat.toDigits 10 (d.numerator / d.denominator)).length
  else
    1 - (Nat.toDigits 10 ((d.denominator - 1) / d.numerator)).length

def neighbours (d : Dyadic) (exponent : Int) : Scaled × Scaled :=
  let digits := d.numerator * tenTo (-exponent).toNat / (d.denominator * tenTo exponent.toNat)
  (⟨digits, exponent⟩, ⟨digits + 1, exponent⟩)

def nearer (d : Dyadic) (below above : Scaled) : Scaled :=
  let middle : Scaled := ⟨below.digits * 10 + 5, below.exponent - 1⟩
  match middle.compare d with
  | .gt => below
  | .lt => above
  | .eq => if below.digits % 2 = 0 then below else above

def withDigits? (d : Dyadic) (count : Nat) : Option Scaled :=
  let (below, above) := neighbours d (decimalLength d - count)
  let interval := Interval.of d
  match interval.contains below, interval.contains above with
  | true, true => some (nearer d below above)
  | true, false => some below
  | false, true => some above
  | false, false => none

def shortest (d : Dyadic) : Scaled :=
  (((List.range 9).map (· + 1)).findSome? (withDigits? d)).getD ⟨0, 0⟩

def Scaled.digitsText (s : Scaled) : List Char × Int :=
  let digits := Nat.toDigits 10 s.digits
  let zeros := digits.reverse.takeWhile (· = '0')
  (digits.take (digits.length - zeros.length), s.exponent + zeros.length)

/--
The layout of a decimal: positional with at least one place behind the point if the number is at
least 10^-6 and below 10^13, otherwise with an exponent behind the first digit.
-/
def Scaled.layout (s : Scaled) : String :=
  let (digits, exponent) := s.digitsText
  let length : Int := digits.length + exponent
  let zeros (n : Int) : List Char := List.replicate n.toNat '0'
  if 0 ≤ exponent ∧ length ≤ 13 then
    .ofList (digits ++ zeros exponent ++ ['.', '0'])
  else if 0 < length ∧ length ≤ 13 then
    .ofList (digits.take length.toNat ++ '.' :: digits.drop length.toNat)
  else if -6 < length ∧ length ≤ 0 then
    .ofList ('0' :: '.' :: zeros (-length) ++ digits)
  else
    let point := if digits.length ≤ 1 then [] else ['.']
    .ofList (digits.take 1 ++ point ++ digits.drop 1) ++ "e" ++ toString (length - 1)

def shortestText? (x : Float32) : Option String :=
  match valueOf x with
  | .finite isNegative d =>
    let text := if d.significand = 0 then "0.0" else (shortest d).layout
    some ((if isNegative then "-" else "") ++ text)
  | _ => none

end Footprint.Decimal
