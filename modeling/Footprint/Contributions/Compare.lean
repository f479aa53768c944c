import Footprint.Contributions
import Footprint.Diff

namespace Footprint

instance : Sized Extent where
  size := Extent.size
  virtualSize := Extent.virtualSize

structure ContributionDiffs where
  sections : Roster String (Diff Extent)
  coffGroups : Roster String (Diff Extent)
  deriving DecidableEq, Repr

namespace ContributionDiffs

def ofSides (before after : Option Contributions) : ContributionDiffs :=
  let before := before.getD .empty
  let after := after.getD .empty
  { sections := before.sections.pair after.sections
    coffGroups := before.coffGroups.pair after.coffGroups }

def find? (d : ContributionDiffs) : Place → Option (Diff Extent)
  | .binarySection name => d.sections.find? name
  | .coffGroup name => d.coffGroups.find? name

def sizeDiffAt (d : ContributionDiffs) (p : Place) : Int :=
  (d.find? p).elim 0 Diff.sizeDiff

def virtualSizeDiffAt (d : ContributionDiffs) (p : Place) : Int :=
  (d.find? p).elim 0 Diff.virtualSizeDiff

def sectionTotal (d : ContributionDiffs) : Int :=
  Quantity.signedTotal (d.sections.values.map Diff.sizeDiff)

def coffGroupTotal (d : ContributionDiffs) : Int :=
  Quantity.signedTotal (d.coffGroups.values.map Diff.sizeDiff)

end ContributionDiffs

class Container (α : Type) where
  name : α → String
  contributions : α → Contributions

instance {α : Type} [Container α] : Entity α where
  name := Container.name
  size c := (Container.contributions c).size
  virtualSize c := (Container.contributions c).virtualSize

structure ContainerDiff (α : Type) where
  diff : Diff α
  contributions : ContributionDiffs
  deriving DecidableEq, Repr

namespace ContainerDiff

variable {α : Type} [Container α]

def ofDiff (diff : Diff α) : ContainerDiff α where
  diff := diff
  contributions :=
    .ofSides (diff.before?.map Container.contributions) (diff.after?.map Container.contributions)

def name (d : ContainerDiff α) : String :=
  d.diff.name

def sizeDiff (d : ContainerDiff α) : Int :=
  d.diff.sizeDiff

def virtualSizeDiff (d : ContainerDiff α) : Int :=
  d.diff.virtualSizeDiff

end ContainerDiff

end Footprint
