import Footprint.Contributions.Compare

namespace Footprint

def columns (sections coffGroups : List String) : List Place :=
  sections.map .binarySection ++ coffGroups.map .coffGroup

section Containers

variable {α : Type} [Container α]

def sectionsIn (containers : List α) : List String :=
  firstSeen (containers.flatMap fun c => (Container.contributions c).sections.keys)

def coffGroupsIn (containers : List α) : List String :=
  firstSeen (containers.flatMap fun c => (Container.contributions c).coffGroups.keys)

def columnsOf (containers : List α) : List Place :=
  columns (sectionsIn containers) (coffGroupsIn containers)

end Containers

def Contributions.sizeAt (c : Contributions) (p : Place) : Nat :=
  (c.extentAt p).size

section Diffs

variable {α : Type}

def diffKeys (significantOnly : Bool) (r : Roster String (Diff Extent)) : List String :=
  (r.entries.filter fun e => !significantOnly || e.2.isSignificant).map Prod.fst

def sectionDiffsIn (significantOnly : Bool) (diffs : List (ContainerDiff α)) : List String :=
  firstSeen (diffs.flatMap fun d => diffKeys significantOnly d.contributions.sections)

def coffGroupDiffsIn (significantOnly : Bool) (diffs : List (ContainerDiff α)) : List String :=
  firstSeen (diffs.flatMap fun d => diffKeys significantOnly d.contributions.coffGroups)

def diffColumnsOf (significantOnly : Bool) (diffs : List (ContainerDiff α)) : List Place :=
  columns (sectionDiffsIn significantOnly diffs) (coffGroupDiffsIn significantOnly diffs)

end Diffs

end Footprint
