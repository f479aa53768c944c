import Footprint.Report

namespace Footprint

inductive Inconsistency where
  | container (name : String) (size : Nat) (sections coffGroups : Option Nat)
  | overfull (kind : ContainerKind) (place : Place) (contributed : Option Nat) (size : Nat)
  | containerDiff (name : String) (sizeDiff sections coffGroups : Int)
  | placeDiff (place : Place) (sizeDiff compilands : Int)
  deriving DecidableEq, Repr

namespace Inconsistency

def describe : Option Nat → String
  | some sum => toString sum
  | none => "more than 64 bits"

def note : Option Nat → String
  | some sum => s!"Some({sum})"
  | none => "None"

def diagnostic : Inconsistency → String
  | container name size sections coffGroups =>
    s!"ERROR: {name}: size {size} but sections sum to {describe sections} "
      ++ s!"and COFF groups to {describe coffGroups}"
  | overfull kind place contributed size =>
    s!"ERROR: {place.title}: {kind.label}s contribute {describe contributed} bytes "
      ++ s!"but it holds {size} bytes"
  | containerDiff name sizeDiff sections coffGroups =>
    s!"ERROR: {name}: size diff {sizeDiff} but sections sum to {sections} "
      ++ s!"and COFF groups to {coffGroups}"
  | placeDiff place sizeDiff compilands =>
    s!"ERROR: {place.title}: size diff {sizeDiff} but compiland diffs sum to {compilands}"

def logMessage? : Inconsistency → Option String
  | container name size sections coffGroups =>
    some <| s!"Inconsistent contributions: name={name}, size={size}, "
      ++ s!"sections={note sections}, coff_groups={note coffGroups}"
  | overfull _ _ _ _ => none
  | containerDiff name sizeDiff sections coffGroups =>
    some <| s!"Inconsistent contribution diffs: name={name}, size_diff={sizeDiff}, "
      ++ s!"sections={sections}, coff_groups={coffGroups}"
  | placeDiff place sizeDiff compilands =>
    some <| s!"Inconsistent section diff: location={place.title}, size_diff={sizeDiff}, "
      ++ s!"compilands={compilands}"

end Inconsistency

section Containers

variable {α : Type} [Container α]

def checkContainers (containers : List α) : List Inconsistency :=
  containers.filterMap fun c =>
    let contributions := Container.contributions c
    let size := contributions.size
    let sections := Quantity.total? (contributions.sections.values.map (·.size))
    let coffGroups := Quantity.total? (contributions.coffGroups.values.map (·.size))
    if sections = some size ∧ coffGroups = some size then none
    else some (.container (Container.name c) size sections coffGroups)

def checkPlaces (kind : ContainerKind) (sections : List BinarySection) (containers : List α)
    : List Inconsistency :=
  (sectionPlaces sections).filterMap fun (place, size) =>
    let contributed :=
      Quantity.total? (containers.map fun c => (Container.contributions c).sizeAt place)
    if contributed.any (· ≤ size) then none
    else some (.overfull kind place contributed size)

def checkContainerDiffs (diffs : List (ContainerDiff α)) : List Inconsistency :=
  diffs.filterMap fun d =>
    let sections := d.contributions.sectionTotal
    let coffGroups := d.contributions.coffGroupTotal
    if sections = d.sizeDiff ∧ coffGroups = d.sizeDiff then none
    else some (.containerDiff d.name d.sizeDiff sections coffGroups)

end Containers

def diffPlaces (sections : List SectionDiff) : List (Place × Int) :=
  sections.flatMap fun s =>
    (.binarySection s.name, s.diff.sizeDiff)
      :: s.coffGroups.entries.map fun (name, g) => (.coffGroup name, g.sizeDiff)

def checkPlaceDiffs (c : Comparison) : List Inconsistency :=
  (diffPlaces c.sections).filterMap fun (place, sizeDiff) =>
    let sum := Quantity.signedTotal (c.compilands.map (·.contributions.sizeDiffAt place))
    if sum = sizeDiff then none
    else some (.placeDiff place sizeDiff sum)

inductive ReportFault where
  | inconsistent (count : Nat)
  | wasteExceedsLimit (wastedSize : Int) (limit : Nat)
  deriving DecidableEq, Repr

def ReportFault.message : ReportFault → String
  | inconsistent count =>
    s!"Inconsistent contributions found in the report: {count} inconsistencies"
  | wasteExceedsLimit wastedSize limit =>
    s!"Wasted size exceeds the limit: {wastedSize} bytes, limit {limit} bytes"

namespace Report

def inconsistencies : Report → List Inconsistency
  | single a _ =>
    checkContainers a.libs ++ checkContainers a.compilands ++ checkContainers a.sourceFiles
      ++ checkPlaces .compiland a.sections a.compilands
      ++ checkPlaces .sourceFile a.sections a.sourceFiles
  | diff c _ =>
    checkContainerDiffs c.libs ++ checkContainerDiffs c.compilands
      ++ checkContainerDiffs c.sourceFiles ++ checkPlaceDiffs c

def validate (r : Report) (maxWastedSize : Option Nat) : Except ReportFault Unit :=
  let count := r.inconsistencies.length
  if 0 < count then
    .error (.inconsistent count)
  else
    match maxWastedSize with
    | none => .ok ()
    | some limit =>
      if Quantity.toSigned limit < r.wastedSize then .error (.wasteExceedsLimit r.wastedSize limit)
      else .ok ()

end Report

end Footprint
