/-!
This module contains the arithmetic of byte counts. Counts and addresses are natural numbers that
have to stay below 2^64, and differences are integers between -2^63 and 2^63 - 1, so every
operation says what happens at those limits: it fails, it stops there, it clamps its operands, or
it wraps around to what 64 bits hold of the result.
-/

namespace Footprint

def wordLimit : Nat := 0x10000000000000000

def maxSigned : Nat := 0x7fffffffffffffff

namespace Quantity

def add? (a b : Nat) : Option Nat :=
  if a + b < wordLimit then some (a + b) else none

def mul? (a b : Nat) : Option Nat :=
  if a * b < wordLimit then some (a * b) else none

def wrap (n : Nat) : Nat :=
  n % wordLimit

def wrappingMul (a b : Nat) : Nat :=
  wrap (a * b)

def wrappingAdd (a b : Nat) : Nat :=
  wrap (a + b)

def wrappingTotal (counts : List Nat) : Nat :=
  counts.foldl wrappingAdd 0

def sum (counts : List Nat) : Nat :=
  counts.foldl (· + ·) 0

def total? (counts : List Nat) : Option Nat :=
  counts.foldlM add? 0

def saturatingAdd (a b : Nat) : Nat :=
  min (a + b) (wordLimit - 1)

def saturatingTotal (counts : List Nat) : Nat :=
  counts.foldl saturatingAdd 0

def toSigned (count : Nat) : Int :=
  min count maxSigned

/--
What was gained from `before` to `after`. Both sides are clamped first, so the difference of two
counts above the largest signed amount is zero.
-/
def delta (before after : Nat) : Int :=
  toSigned after - toSigned before

def signedWrap (i : Int) : Int :=
  i.bmod wordLimit

def signedWrappingAdd (a b : Int) : Int :=
  signedWrap (a + b)

def signedWrappingTotal (amounts : List Int) : Int :=
  amounts.foldl signedWrappingAdd 0

def signedAdd (a b : Int) : Int :=
  max (-maxSigned - 1) (min maxSigned (a + b))

def signedTotal (amounts : List Int) : Int :=
  amounts.foldl signedAdd 0

theorem add?_eq_some {a b c : Nat} : add? a b = some c ↔ a + b < wordLimit ∧ a + b = c := by
  unfold add?
  split <;> simp [*]

end Quantity

end Footprint
