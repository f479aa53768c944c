import Footprint.Contributions.Compare
import Footprint.Pass

namespace Footprint

def shortName (name : String) : String :=
  .ofList (name.toList.reverse.takeWhile fun c => c ≠ '/' ∧ c ≠ '\\').reverse

structure CoffGroup where
  name : String
  sectionName : String
  size : Nat
  virtualSize : Nat
  deriving DecidableEq, Repr

instance : Entity CoffGroup where
  name := CoffGroup.name
  size := CoffGroup.size
  virtualSize := CoffGroup.virtualSize

structure BinarySection where
  name : String
  size : Nat
  virtualSize : Nat
  coffGroups : List CoffGroup
  deriving DecidableEq, Repr

instance : Entity BinarySection where
  name := BinarySection.name
  size := BinarySection.size
  virtualSize := BinarySection.virtualSize

def BinarySection.ofRecord (r : SectionRecord) : BinarySection where
  name := r.name
  size := r.size
  virtualSize := r.virtualSize
  coffGroups := r.coffGroups.map fun g =>
    { name := g.name, sectionName := r.name, size := g.size, virtualSize := g.virtualSize }

structure Compiland where
  name : String
  lib : String
  contributions : Contributions
  deriving DecidableEq, Repr

instance : Container Compiland where
  name := Compiland.name
  contributions := Compiland.contributions

structure SourceFile where
  name : String
  contributions : Contributions
  deriving DecidableEq, Repr

instance : Container SourceFile where
  name := SourceFile.name
  contributions := SourceFile.contributions

structure Lib where
  name : String
  compilands : List String
  contributions : Contributions
  deriving DecidableEq, Repr

instance : Container Lib where
  name := Lib.name
  contributions := Lib.contributions

def saneContributions {α : Type} : Except Place α → Except AnalysisError α
  | .ok c => .ok c
  | .error place => .error (.sanity (.contributionOverflow place))

def Compiland.ofRecord (r : CompilandRecord) : Except AnalysisError Compiland := do
  let contributions ← saneContributions (Contributions.ofRecords r.contributions)
  return { name := r.name, lib := r.lib, contributions }

def SourceFile.ofRecord (r : SourceFileRecord) : Except AnalysisError SourceFile := do
  let contributions ← saneContributions (Contributions.ofRecords r.contributions)
  return { name := r.name, contributions }

def Lib.add (l : Lib) (c : Compiland) : Except AnalysisError Lib := do
  let contributions ← saneContributions (l.contributions.merge c.contributions)
  let compilands := if c.name ∈ l.compilands then l.compilands else l.compilands ++ [c.name]
  return { l with compilands, contributions }

def addToLib (libs : Roster String Lib) (c : Compiland)
    : Except AnalysisError (Roster String Lib) := do
  let lib := (libs.find? c.lib).getD { name := c.lib, compilands := [], contributions := .empty }
  return libs.insert c.lib (← lib.add c)

def Snapshot.buildCompilands (s : Snapshot) : Pass (List Compiland) :=
  Sweep.mapEach .compilands Compiland.ofRecord s.compilands

def Snapshot.buildSourceFiles (s : Snapshot) : Pass (List SourceFile) :=
  Sweep.mapEach .sourceFiles SourceFile.ofRecord s.sourceFiles

def buildLibs (compilands : List Compiland) : Pass (List Lib) := do
  let libs ← Sweep.run .libs compilands.length (fun sweep _ => sweep.advance 1) addToLib
    .empty Roster.size compilands
  return libs.values

def sectionPlaces (sections : List BinarySection) : List (Place × Nat) :=
  sections.flatMap fun s =>
    (.binarySection s.name, s.size) :: s.coffGroups.map fun g => (.coffGroup g.name, g.size)

def checkFit {α : Type} [Container α] (kind : ContainerKind) (sections : List BinarySection)
    (containers : List α) : Except AnalysisError Unit := do
  let totals ← saneContributions (Contributions.mergeAll (containers.map Container.contributions))
  (sectionPlaces sections).forM fun (place, size) =>
    let contributed := (totals.extentAt place).size
    if contributed ≤ size then
      .ok ()
    else
      .error (.sanity (.overfull kind place contributed size))

structure SectionDiff where
  diff : Diff BinarySection
  coffGroups : Roster String (Diff CoffGroup)
  deriving DecidableEq, Repr

namespace SectionDiff

def name (d : SectionDiff) : String :=
  d.diff.name

def ofDiff (diff : Diff BinarySection) : Except PairingError SectionDiff := do
  let groups (side : Option BinarySection) : List CoffGroup := side.elim [] BinarySection.coffGroups
  let pairs ← pairByName (groups diff.before?) (groups diff.after?)
  return { diff, coffGroups := .ofList (pairs.map fun d => (d.name, d)) }

end SectionDiff

def diffSections (before after : List BinarySection) : Except PairingError (List SectionDiff) := do
  (← pairByName before after).mapM SectionDiff.ofDiff

def pairable {α : Type} : Except PairingError α → Except AnalysisError α
  | .ok a => .ok a
  | .error e => .error (.pairing e)

def diffContainers {α : Type} [Container α] (task : Task) (before after : List α)
    : Pass (List (ContainerDiff α)) := do
  let pairs ← pairable (pairByName before after)
  Sweep.mapEach task (fun d => .ok (ContainerDiff.ofDiff d)) pairs

def checkBalance {α : Type} [Container α] (kind : ContainerKind) (diffs : List (ContainerDiff α))
    : Except AnalysisError Unit :=
  diffs.forM fun d =>
    let sections := d.contributions.sectionTotal
    let coffGroups := d.contributions.coffGroupTotal
    if sections = d.sizeDiff ∧ coffGroups = d.sizeDiff then
      .ok ()
    else
      .error (.sanity (.unbalanced kind d.name d.sizeDiff sections coffGroups))

end Footprint
