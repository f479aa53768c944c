import Footprint.Text.Width.Single

namespace Footprint.Text

def isLam (c : Char) : Bool :=
  CharRanges.contains c
    [(0x644, 0x644), (0x6b5, 0x6b8), (0x76a, 0x76a), (0x8a6, 0x8a6), (0x8c7, 0x8c7)]

def isAlef (c : Char) : Bool :=
  CharRanges.contains c
    [(0x622, 0x623), (0x625, 0x625), (0x627, 0x627), (0x671, 0x673), (0x675, 0x675),
      (0x773, 0x774), (0x870, 0x882)]

def isTifinaghConsonant (c : Char) : Bool :=
  CharRanges.contains c [(0x2d31, 0x2d65), (0x2d6f, 0x2d6f)]

def isKhmerSubscript (c : Char) : Bool :=
  CharRanges.contains c
    [(0x1780, 0x1782), (0x1784, 0x1787), (0x1789, 0x178c), (0x178e, 0x1793), (0x1795, 0x1798),
      (0x179b, 0x179d), (0x17a0, 0x17a0), (0x17a2, 0x17a2), (0x17a7, 0x17a7), (0x17ab, 0x17ac),
      (0x17af, 0x17af)]

def isFirstLisuTone (c : Char) : Bool :=
  CharRanges.contains c [(0xa4f8, 0xa4fb)]

def isSecondLisuTone (c : Char) : Bool :=
  CharRanges.contains c [(0xa4fc, 0xa4fd)]

def separatingRanges : CharRanges := [
  (0x605, 0x605), (0x890, 0x891), (0x8e2, 0x8e2), (0x9be, 0x9be), (0x9d7, 0x9d7), (0xb3e, 0xb3e),
  (0xb57, 0xb57), (0xbbe, 0xbbe), (0xbd7, 0xbd7), (0xcc0, 0xcc0), (0xcc2, 0xcc2), (0xcc7, 0xcc8),
  (0xcca, 0xccb), (0xcd5, 0xcd6), (0xd3e, 0xd3e), (0xd4e, 0xd4e), (0xd57, 0xd57), (0xdcf, 0xdcf),
  (0xddf, 0xddf), (0x1160, 0x11ff), (0x1715, 0x1715), (0x1734, 0x1734), (0x180e, 0x180e),
  (0x1b35, 0x1b35), (0x1b3b, 0x1b3b), (0x1b3d, 0x1b3d), (0x1b43, 0x1b44), (0x1baa, 0x1baa),
  (0x1bf2, 0x1bf3), (0x200c, 0x200d), (0x2065, 0x2069), (0x302e, 0x302f), (0x3164, 0x3164),
  (0xa8fa, 0xa8fa), (0xa953, 0xa953), (0xa9c0, 0xa9c0), (0xd7b0, 0xd7c6), (0xd7cb, 0xd7fb),
  (0xffa0, 0xffa0), (0xfff0, 0xfff8), (0x111c0, 0x111c0), (0x111c2, 0x111c3), (0x11235, 0x11235),
  (0x1133e, 0x1133e), (0x1134d, 0x1134d), (0x11357, 0x11357), (0x113b8, 0x113b8),
  (0x113c2, 0x113c2), (0x113c5, 0x113c5), (0x113c7, 0x113c9), (0x113cf, 0x113cf),
  (0x113d1, 0x113d1), (0x114b0, 0x114b0), (0x114bd, 0x114bd), (0x115af, 0x115af),
  (0x116b6, 0x116b6), (0x11930, 0x11930), (0x1193d, 0x1193d), (0x1193f, 0x1193f),
  (0x11941, 0x11941), (0x11a84, 0x11a89), (0x11d46, 0x11d46), (0x11f02, 0x11f02),
  (0x11f41, 0x11f41), (0x16ff0, 0x16ff1), (0x1d165, 0x1d166), (0x1d16d, 0x1d172),
  (0x1d250, 0x1d252), (0x1d25f, 0x1d25f), (0x1d280, 0x1d281), (0xe0000, 0xe0000),
  (0xe0002, 0xe001f), (0xe0080, 0xe00ff), (0xe01f0, 0xe0fff)]

def isTransparent (c : Char) : Bool :=
  charWidth c = 0 && !separatingRanges.contains c

def isIgnorableMark (c : Char) : Bool :=
  isIgnorable c && isMark c && !isFormat c

def joiner : Char := '\u200d'

inductive Ligature where
  | arabicAlef
  | hebrewLamed
  | khmerSubscript
  | bugineseYa
  | bugineseIYa
  | tifinaghConsonant
  | tifinaghJoined
  | lisuTone
  | turkicI
  | kiratRaiE
  | kiratRaiAi
  deriving DecidableEq, Repr

namespace Ligature

def ofChar? (c : Char) : Option Ligature :=
  match c.toNat with
  | 0x5dc => some hebrewLamed
  | 0x1a10 => some bugineseYa
  | 0x10c03 => some turkicI
  | 0x16d67 => some kiratRaiE
  | 0x16d68 => some kiratRaiAi
  | _ =>
    if isAlef c then some arabicAlef
    else if isKhmerSubscript c then some khmerSubscript
    else if isTifinaghConsonant c then some tifinaghConsonant
    else if isSecondLisuTone c then some lisuTone
    else none

def skips (l : Ligature) (c : Char) : Bool :=
  match l with
  | arabicAlef => isTransparent c
  | kiratRaiE | kiratRaiAi => false
  | _ => isIgnorableMark c

def admitsJoiner (l : Ligature) : Bool :=
  match l with
  | arabicAlef | kiratRaiE | kiratRaiAi => false
  | _ => true

/--
What a letter that stands before the others adds to the width, if they form a ligature, and what may
be drawn as one with letters before them. `tied` says whether a joiner stands in between. A letter
that goes below the one before it gives back the room that it has been given.
-/
def extend? (l : Ligature) (tied : Bool) (c : Char) : Option (Int × Option Ligature) :=
  match l, tied, c.toNat with
  | arabicAlef, _, _ => if isLam c then some (0, none) else none
  | hebrewLamed, true, 0x5d0 => some (0, none)
  | khmerSubscript, _, 0x17d2 => some (-1, none)
  | bugineseYa, true, 0x1a17 => some (0, some bugineseIYa)
  | bugineseIYa, _, 0x1a15 => some (0, none)
  | tifinaghConsonant, _, 0x2d7f => some (1, some tifinaghJoined)
  | tifinaghConsonant, true, _ => if isTifinaghConsonant c then some (0, none) else none
  | tifinaghJoined, _, _ => if isTifinaghConsonant c then some (-1, none) else none
  | lisuTone, _, _ => if isFirstLisuTone c then some (0, none) else none
  | turkicI, true, 0x10c32 => some (0, none)
  | kiratRaiE, _, 0x16d63 => some (0, none)
  | kiratRaiE, _, 0x16d67 => some (0, some kiratRaiAi)
  | kiratRaiE, _, 0x16d68 => some (1, some kiratRaiE)
  | kiratRaiE, _, 0x16d69 => some (0, none)
  | kiratRaiAi, _, 0x16d63 => some (0, none)
  | _, _, _ => none

end Ligature

end Footprint.Text
