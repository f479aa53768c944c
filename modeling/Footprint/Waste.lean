import Footprint.Diff

namespace Footprint

class Wasteful (α : Type) where
  wastedSize : α → Nat

namespace Diff

variable {α : Type} [Wasteful α]

def wastedSizeDiff (d : Diff α) : Int :=
  d.deltaBy Wasteful.wastedSize

def wastedSizeRemaining (d : Diff α) : Nat :=
  d.after?.elim 0 Wasteful.wastedSize

end Diff

end Footprint
