namespace Footprint.Text

/-- Ranges of code points in ascending order, each given by its first and its last one. -/
abbrev CharRanges := List (Nat × Nat)

def CharRanges.contains (c : Char) : CharRanges → Bool
  | [] => false
  | (first, last) :: rest =>
    if c.toNat < first then false
    else c.toNat ≤ last || contains c rest

def blankRanges : CharRanges := [
  (0x09, 0x0d), (0x20, 0x20), (0x85, 0x85), (0xa0, 0xa0), (0x1680, 0x1680), (0x2000, 0x200a),
  (0x2028, 0x2029), (0x202f, 0x202f), (0x205f, 0x205f), (0x3000, 0x3000)]

def isBlank (c : Char) : Bool :=
  blankRanges.contains c

def trim (cs : List Char) : List Char :=
  ((cs.dropWhile isBlank).reverse.dropWhile isBlank).reverse

end Footprint.Text
