import Footprint.Contributions.Column
import Footprint.Container
import Footprint.Waste.DuplicateData
import Footprint.Waste.Foldability
import Footprint.Waste.WastefulVirtual

/-!
This module contains the analysis of one build: its sections, its containers with their
contributions, its symbols and the findings of all waste analyses.
-/

namespace Footprint

structure AnalysisOptions where
  excludeComTypes : Bool := false
  exampleSymbols : Nat := 5
  deriving DecidableEq, Repr

instance : Entity Symbol where
  name := Symbol.name
  size := Symbol.size
  virtualSize := Symbol.virtualSize

structure Analysis where
  binary : String
  bytesPerWord : Nat
  sections : List BinarySection
  libs : List Lib
  compilands : List Compiland
  sourceFiles : List SourceFile
  symbols : List Symbol
  duplicateData : List DuplicateData
  foldability : List Foldability
  wastefulVirtuals : List WastefulVirtual
  deriving DecidableEq, Repr

def findByName? {α : Type} [Entity α] (entities : List α) (name : String) : Option α :=
  entities.find? fun e => Entity.name e = name

namespace Snapshot

def completion (a : Analysis) : String :=
  s!"Analysis completed: binary={a.binary}, libs={a.libs.length}, "
    ++ s!"compilands={a.compilands.length}, duplicate_data={a.duplicateData.length}, "
    ++ s!"template_foldability={a.foldability.length}, "
    ++ s!"wasteful_virtuals={a.wastefulVirtuals.length}"

/--
Runs every analysis. There is no result unless each of them comes to its end. How the waste of types
is measured depends on the build of the program.
-/
def analyzeBy {m : Type → Type} [Monad m] [MonadLiftT Pass m] (measure : WastefulVirtual → m Nat)
    (s : Snapshot) (options : AnalysisOptions) (similarity : Similarity) : m Analysis := do
  Pass.log .info s!"Analyzing binary: binary={s.binary}"
  Pass.checkpoint
  let sections := s.sections.map BinarySection.ofRecord
  let compilands ← s.buildCompilands
  let libs ← buildLibs compilands
  let sourceFiles ← s.buildSourceFiles
  Pass.ofExcept (checkFit .compiland sections compilands)
  Pass.ofExcept (checkFit .sourceFile sections sourceFiles)
  let duplicateData ← DuplicateData.find s
  let foldability ← Foldability.find similarity s
  let wastefulVirtuals ← WastefulVirtual.findBy measure options.excludeComTypes s
  let analysis : Analysis := {
    binary := s.binary
    bytesPerWord := s.bytesPerWord
    sections, libs, compilands, sourceFiles
    symbols := s.symbols
    duplicateData
    foldability := foldability.items
    wastefulVirtuals }
  Pass.log .info (completion analysis)
  return analysis

def analyze (s : Snapshot) (options : AnalysisOptions) (similarity : Similarity) : Pass Analysis :=
  s.analyzeBy (fun item => pure item.wastedSize) options similarity

def analyzeChecked (s : Snapshot) (options : AnalysisOptions) (similarity : Similarity)
    : OptionT Pass Analysis :=
  s.analyzeBy (fun item => .mk (pure item.wastedSize?)) options similarity

end Snapshot

end Footprint
