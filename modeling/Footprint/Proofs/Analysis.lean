import Footprint.Analysis
import Footprint.Proofs.Container

namespace Footprint
namespace Snapshot

def assemble (s : Snapshot) (compilands : List Compiland) (libs : List Lib)
    (sourceFiles : List SourceFile) (duplicateData : List DuplicateData)
    (foldability : List Foldability) (wastefulVirtuals : List WastefulVirtual) : Analysis where
  binary := s.binary
  bytesPerWord := s.bytesPerWord
  sections := s.sections.map BinarySection.ofRecord
  libs := libs
  compilands := compilands
  sourceFiles := sourceFiles
  symbols := s.symbols
  duplicateData := duplicateData
  foldability := foldability
  wastefulVirtuals := wastefulVirtuals

theorem analyze_eq (s : Snapshot) (options : AnalysisOptions) (similarity : Similarity)
    : s.analyze options similarity = (do
        Pass.log .info s!"Analyzing binary: binary={s.binary}"
        Pass.checkpoint
        let sections := s.sections.map BinarySection.ofRecord
        let compilands ← s.buildCompilands
        let libs ← buildLibs compilands
        let sourceFiles ← s.buildSourceFiles
        Pass.ofExcept (checkFit .compiland sections compilands)
        Pass.ofExcept (checkFit .sourceFile sections sourceFiles)
        let duplicateData ← DuplicateData.find s
        let found ← Foldability.find similarity s
        let wastefulVirtuals ← WastefulVirtual.find options.excludeComTypes s
        let a := s.assemble compilands libs sourceFiles duplicateData found.items wastefulVirtuals
        Pass.log .info (completion a)
        return a) := by
  rfl

theorem result_analyze (s : Snapshot) (options : AnalysisOptions) (similarity : Similarity)
    : (s.analyze options similarity).result = (do
        let sections := s.sections.map BinarySection.ofRecord
        let compilands ← s.buildCompilands.result
        let libs ← (buildLibs compilands).result
        let sourceFiles ← s.buildSourceFiles.result
        checkFit .compiland sections compilands
        checkFit .sourceFile sections sourceFiles
        let duplicateData ← (DuplicateData.find s).result
        let found ← (Foldability.find similarity s).result
        let wastefulVirtuals ← (WastefulVirtual.find options.excludeComTypes s).result
        return s.assemble compilands libs sourceFiles duplicateData found.items
          wastefulVirtuals) := by
  rw [analyze_eq]
  simp only [Pass.result_bind, Pass.result_log, Pass.result_checkpoint, Pass.result_ofExcept,
    Pass.result_pure]
  rfl

structure Makes (s : Snapshot) (options : AnalysisOptions) (similarity : Similarity)
    (a : Analysis) : Prop where
  sections : a.sections = s.sections.map BinarySection.ofRecord
  compilands : s.buildCompilands.result = .ok a.compilands
  libs : (buildLibs a.compilands).result = .ok a.libs
  sourceFiles : s.buildSourceFiles.result = .ok a.sourceFiles
  duplicateData : (DuplicateData.find s).result = .ok a.duplicateData
  foldability : (Foldability.find similarity s).result.map (·.items) = .ok a.foldability
  wastefulVirtuals : (WastefulVirtual.find options.excludeComTypes s).result
    = .ok a.wastefulVirtuals

theorem makes_of_result_analyze {s : Snapshot} {options : AnalysisOptions} {similarity : Similarity}
    {a : Analysis} (h : (s.analyze options similarity).result = .ok a)
    : s.Makes options similarity a := by
  rw [result_analyze] at h
  dsimp only at h
  simp only [Except.bind_eq_ok, Except.pure_eq_ok] at h
  obtain ⟨compilands, hcompilands, libs, hlibs, sourceFiles, hsourceFiles, _, _, _, _,
    duplicateData, hduplicateData, found, hfound, wastefulVirtuals, hwastefulVirtuals, h⟩ := h
  cases h
  refine ⟨rfl, hcompilands, hlibs, hsourceFiles, hduplicateData, ?_, hwastefulVirtuals⟩
  rw [hfound]
  rfl

theorem symbols_of_result_analyze {s : Snapshot} {options : AnalysisOptions}
    {similarity : Similarity} {a : Analysis} (h : (s.analyze options similarity).result = .ok a)
    : a.symbols = s.symbols := by
  rw [result_analyze] at h
  dsimp only at h
  simp only [Except.bind_eq_ok, Except.pure_eq_ok] at h
  obtain ⟨_, _, _, _, _, _, _, _, _, _, _, _, _, _, _, _, h⟩ := h
  cases h
  rfl

end Snapshot
end Footprint
