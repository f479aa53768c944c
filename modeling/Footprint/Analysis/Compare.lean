import Footprint.Analysis
import Footprint.Pass.Monitor

namespace Footprint

structure Comparison where
  beforeBinary : String
  afterBinary : String
  sections : List SectionDiff
  libs : List (ContainerDiff Lib)
  compilands : List (ContainerDiff Compiland)
  sourceFiles : List (ContainerDiff SourceFile)
  symbols : List (Diff Symbol)
  duplicateData : List (Diff DuplicateData)
  foldability : List (Diff Foldability)
  wastefulVirtuals : List WastefulVirtualDiff
  deriving DecidableEq, Repr

namespace Comparison

def ofAnalyses (before after : Analysis) : Pass Comparison := do
  Pass.checkpoint
  let sections ← pairable (diffSections before.sections after.sections)
  let libs ← diffContainers .libDiffs before.libs after.libs
  let compilands ← diffContainers .compilandDiffs before.compilands after.compilands
  let sourceFiles ← diffContainers .sourceFileDiffs before.sourceFiles after.sourceFiles
  checkBalance .lib libs
  checkBalance .compiland compilands
  checkBalance .sourceFile sourceFiles
  Pass.checkpoint
  let symbols ← pairable (pairByName before.symbols after.symbols)
  let duplicateData ← pairable (DuplicateData.diff before.duplicateData after.duplicateData)
  let foldability ← pairable (Foldability.diff before.foldability after.foldability)
  let wastefulVirtuals ←
    pairable (WastefulVirtual.diff before.wastefulVirtuals after.wastefulVirtuals)
  Pass.checkpoint
  return {
    beforeBinary := before.binary
    afterBinary := after.binary
    sections, libs, compilands, sourceFiles, symbols, duplicateData, foldability
    wastefulVirtuals }

def section? (c : Comparison) (name : String) : Option SectionDiff :=
  c.sections.find? (·.name = name)

end Comparison

def findDiff? {α : Type} [Container α] (diffs : List (ContainerDiff α)) (name : String)
    : Option (ContainerDiff α) :=
  diffs.find? (·.name = name)

/--
Analyzes two builds under one monitor and pairs the results. The later build is analyzed even if the
analysis of the earlier one has failed, whose error then comes first.
-/
def compareSnapshots (before after : Snapshot) (options : AnalysisOptions)
    (similarity : Similarity) (m : Monitor) : Except AnalysisError Comparison × Monitor :=
  let (first, m) := (before.analyze options similarity).run m
  let (second, m) := (after.analyze options similarity).run m
  match first, second with
  | .ok first, .ok second => (Comparison.ofAnalyses first second).run m
  | .error e, _ => (.error e, m)
  | _, .error e => (.error e, m)

end Footprint
