import Footprint.Report
import Footprint.Report.Table

namespace Footprint

namespace Summary

def rowLimit : Nat := 20

def nameLimit : Nat := 60

def rowName (name : String) : String :=
  Cell.shorten nameLimit name

def largest {α : Type} (rank : α → Nat) (xs : List α) : List α :=
  (xs.mergeSort fun a b => rank b ≤ rank a).take rowLimit

def sectionTable (sections : List BinarySection) : Table where
  titles := ["Section", "Size", "Virtual Size", "COFF Groups"]
  rows := sections.map fun s =>
    [s.name, toString s.size, toString s.virtualSize, toString s.coffGroups.length]

def libTable (libs : List Lib) : Table :=
  let places := columnsOf libs
  { titles := ["Lib", "Size"] ++ places.map Place.columnTitle
    rows := (largest Sized.size libs).map fun l =>
      [rowName l.name, toString (Sized.size l)]
        ++ places.map fun p => toString (l.contributions.sizeAt p) }

def wasteTable (w : WasteTotals) : Table where
  titles := ["Waste", "Items", "Wasted Size"]
  rows := [
    ["Duplicate data", toString w.duplicateDataItems, toString w.duplicateDataWasted],
    ["Template foldability", toString w.foldabilityItems, toString w.foldabilityWasted],
    ["Wasteful virtuals", toString w.wastefulVirtualItems, toString w.wastefulVirtualWasted],
    ["Total", toString (w.duplicateDataItems + w.foldabilityItems + w.wastefulVirtualItems),
      toString w.totalWasted]]

def foldabilityTable (exampleSymbols : Nat) (items : List Foldability) : Table where
  titles := ["Template", "Wasted Size", "Similarity", "Examples"]
  rows := (largest Foldability.wastedSize items).map fun f =>
    [rowName f.templateName, toString f.wastedSize, Cell.percentage f.similarity,
      String.intercalate "\n" (f.examples exampleSymbols)]

def wastefulVirtualTable (items : List WastefulVirtual) : Table where
  titles := ["Type", "COM", "Derived Types", "Wasted Slots", "Wasted Size"]
  rows := (largest WastefulVirtual.wastedSize items).map fun v =>
    [rowName v.typeName, if v.isComType then "yes" else "no", toString v.derivedTypes.length,
      toString v.overrides.length, toString v.wastedSize]

def sectionDiffTable (sections : List SectionDiff) : Table where
  titles := ["Section", "Before", "After", "Size Diff", "Virtual Size Diff"]
  rows := sections.map fun s =>
    let size (side : Option BinarySection) : String := toString (side.elim 0 BinarySection.size)
    [s.name, size s.diff.before?, size s.diff.after?, Cell.signed s.diff.sizeDiff,
      Cell.signed s.diff.virtualSizeDiff]

def changeTable (t : DiffTotals) : Table where
  titles := ["Kind", "Added", "Removed", "Grown", "Shrunk", "Unchanged"]
  rows :=
    [("Sections", t.sections), ("Libs", t.libs), ("Compilands", t.compilands),
      ("Source files", t.sourceFiles), ("Symbols", t.symbols)].map fun (kind, c) =>
        [kind, toString c.added, toString c.removed, toString c.grown, toString c.shrunk,
          toString c.unchanged]

def compilandDiffTable (changed : List (ContainerDiff Compiland)) : Table :=
  let places := diffColumnsOf true changed
  { titles := ["Compiland", "Size Diff"] ++ places.map Place.columnTitle
    rows := (largest (fun d => d.sizeDiff.natAbs) changed).map fun d =>
      [rowName d.name, Cell.signed d.sizeDiff]
        ++ places.map fun p => Cell.signed (d.contributions.sizeDiffAt p) }

def wasteDiffTable (w : WasteDiffTotals) : Table where
  titles := ["Waste", "Wasted Size Diff", "Wasted Size Remaining"]
  rows := [
    ["Duplicate data", Cell.signed w.duplicateDataDiff, toString w.duplicateDataRemaining],
    ["Template foldability", Cell.signed w.foldabilityDiff, toString w.foldabilityRemaining],
    ["Wasteful virtuals", Cell.signed w.wastefulVirtualDiff, toString w.wastefulVirtualRemaining],
    ["Total", Cell.signed w.totalDiff,
      toString (w.duplicateDataRemaining + w.foldabilityRemaining + w.wastefulVirtualRemaining)]]

def wastefulVirtualDiffTable (diffs : List WastefulVirtualDiff) : Table where
  titles := ["Type", "Wasted Size Diff", "Override Changes", "Hierarchy Changes"]
  rows := (largest (fun d => d.wastedSizeDiff.natAbs) diffs).map fun d =>
    [rowName d.typeName, Cell.signed d.wastedSizeDiff, toString d.overrideChanges.length,
      toString d.hierarchyChanges.length]

def unlessEmpty {α : Type} (xs : List α) (table : List α → Table) : List Table :=
  if xs.isEmpty then [] else [table xs]

def tablesOf (a : Analysis) (totals : SingleTotals) (exampleSymbols : Nat) : List Table :=
  [sectionTable a.sections] ++ unlessEmpty a.libs libTable ++ [wasteTable totals.waste]
    ++ unlessEmpty a.foldability (foldabilityTable exampleSymbols)
    ++ unlessEmpty a.wastefulVirtuals wastefulVirtualTable

def diffTablesOf (c : Comparison) (totals : DiffTotals) : List Table :=
  let changed := c.compilands.filter (·.diff.isSignificant)
  [sectionDiffTable c.sections, changeTable totals] ++ unlessEmpty changed compilandDiffTable
    ++ [wasteDiffTable totals.waste] ++ unlessEmpty c.wastefulVirtuals wastefulVirtualDiffTable

end Summary

def Report.summaryLines (r : Report) (exampleSymbols : Nat) : List String :=
  let (totals, tables) :=
    match r with
    | .single a t =>
      (s!"Total size: {t.size} bytes ({t.virtualSize} bytes in memory)",
        Summary.tablesOf a t exampleSymbols)
    | .diff c t =>
      (s!"Size diff: {Cell.signed t.sizeDiff} bytes "
          ++ s!"({Cell.signed t.virtualSizeDiff} bytes in memory)",
        Summary.diffTablesOf c t)
  [s!"Binary: {r.binary}", totals, ""] ++ tables.flatMap fun table => table.lines ++ [""]

end Footprint
