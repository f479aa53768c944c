import Footprint.Analysis.Compare

/-!
This module contains the totals of reports. Totals that are counted over a list can be added, so
they do not depend on how the list is cut into parts. Amounts of bytes are added up in 64 bits, as
in a build that does not check its sums.
-/

namespace Footprint

open Quantity (wrappingAdd wrappingTotal signedWrappingAdd signedWrappingTotal)

structure ChangeTotals where
  added : Nat := 0
  removed : Nat := 0
  grown : Nat := 0
  shrunk : Nat := 0
  unchanged : Nat := 0
  total : Nat := 0
  deriving DecidableEq, Repr

namespace ChangeTotals

protected def add (a b : ChangeTotals) : ChangeTotals :=
  let added := a.added + b.added
  let removed := a.removed + b.removed
  let grown := a.grown + b.grown
  let shrunk := a.shrunk + b.shrunk
  let unchanged := a.unchanged + b.unchanged
  { added, removed, grown, shrunk, unchanged
    total := added + removed + grown + shrunk + unchanged }

instance : Add ChangeTotals where
  add := ChangeTotals.add

def count {α : Type} [Sized α] (t : ChangeTotals) : Diff α → ChangeTotals
  | .afterOnly _ => { t with added := t.added + 1 }
  | .beforeOnly _ => { t with removed := t.removed + 1 }
  | .both before after =>
    let change := (Diff.both before after).sizeDiff
    if change = 0 then { t with unchanged := t.unchanged + 1 }
    else if 0 < change then { t with grown := t.grown + 1 }
    else { t with shrunk := t.shrunk + 1 }

def ofDiffs {α : Type} [Sized α] (diffs : List (Diff α)) : ChangeTotals :=
  {} + diffs.foldl count {}

end ChangeTotals

structure WasteTotals where
  duplicateDataItems : Nat := 0
  duplicateDataCompilands : Nat := 0
  duplicateDataWasted : Nat := 0
  foldabilityItems : Nat := 0
  foldabilityWasted : Nat := 0
  wastefulVirtualItems : Nat := 0
  wastefulVirtualComTypes : Nat := 0
  wastefulVirtualWasted : Nat := 0
  totalWasted : Nat := 0
  deriving DecidableEq, Repr

namespace WasteTotals

protected def add (a b : WasteTotals) : WasteTotals :=
  let duplicateDataWasted := wrappingAdd a.duplicateDataWasted b.duplicateDataWasted
  let foldabilityWasted := wrappingAdd a.foldabilityWasted b.foldabilityWasted
  let wastefulVirtualWasted := wrappingAdd a.wastefulVirtualWasted b.wastefulVirtualWasted
  { duplicateDataItems := a.duplicateDataItems + b.duplicateDataItems
    -- Distinct names cannot be added up. They are counted over all items at the end.
    duplicateDataCompilands := 0
    duplicateDataWasted
    foldabilityItems := a.foldabilityItems + b.foldabilityItems
    foldabilityWasted
    wastefulVirtualItems := a.wastefulVirtualItems + b.wastefulVirtualItems
    wastefulVirtualComTypes := a.wastefulVirtualComTypes + b.wastefulVirtualComTypes
    wastefulVirtualWasted
    totalWasted :=
      wrappingAdd (wrappingAdd duplicateDataWasted foldabilityWasted) wastefulVirtualWasted }

instance : Add WasteTotals where
  add := WasteTotals.add

def countDuplicateData (t : WasteTotals) (d : DuplicateData) : WasteTotals :=
  { t with
    duplicateDataItems := t.duplicateDataItems + 1
    duplicateDataWasted := wrappingAdd t.duplicateDataWasted d.wastedSize }

def countFoldability (t : WasteTotals) (f : Foldability) : WasteTotals :=
  { t with
    foldabilityItems := t.foldabilityItems + 1
    foldabilityWasted := wrappingAdd t.foldabilityWasted f.wastedSize }

def countWastefulVirtual (t : WasteTotals) (v : WastefulVirtual) : WasteTotals :=
  { t with
    wastefulVirtualItems := t.wastefulVirtualItems + 1
    wastefulVirtualComTypes := t.wastefulVirtualComTypes + (if v.isComType then 1 else 0)
    wastefulVirtualWasted := wrappingAdd t.wastefulVirtualWasted v.wastedSize }

def ofAnalysis (a : Analysis) : WasteTotals :=
  let sum := a.duplicateData.foldl countDuplicateData {}
    + a.foldability.foldl countFoldability {}
    + a.wastefulVirtuals.foldl countWastefulVirtual {}
  { sum with
    duplicateDataCompilands := (firstSeen (a.duplicateData.flatMap (·.referencedIn))).length }

end WasteTotals

structure WasteDiffTotals where
  duplicateDataDiff : Int := 0
  duplicateDataRemaining : Nat := 0
  foldabilityDiff : Int := 0
  foldabilityRemaining : Nat := 0
  wastefulVirtualDiff : Int := 0
  wastefulVirtualRemaining : Nat := 0
  typesChanged : Nat := 0
  totalDiff : Int := 0
  deriving DecidableEq, Repr

namespace WasteDiffTotals

protected def add (a b : WasteDiffTotals) : WasteDiffTotals :=
  let duplicateDataDiff := signedWrappingAdd a.duplicateDataDiff b.duplicateDataDiff
  let foldabilityDiff := signedWrappingAdd a.foldabilityDiff b.foldabilityDiff
  let wastefulVirtualDiff := signedWrappingAdd a.wastefulVirtualDiff b.wastefulVirtualDiff
  { duplicateDataDiff
    duplicateDataRemaining := wrappingAdd a.duplicateDataRemaining b.duplicateDataRemaining
    foldabilityDiff
    foldabilityRemaining := wrappingAdd a.foldabilityRemaining b.foldabilityRemaining
    wastefulVirtualDiff
    wastefulVirtualRemaining := wrappingAdd a.wastefulVirtualRemaining b.wastefulVirtualRemaining
    typesChanged := 0
    totalDiff :=
      signedWrappingAdd (signedWrappingAdd duplicateDataDiff foldabilityDiff) wastefulVirtualDiff }

instance : Add WasteDiffTotals where
  add := WasteDiffTotals.add

def countDuplicateData (t : WasteDiffTotals) (d : Diff DuplicateData) : WasteDiffTotals :=
  { t with
    duplicateDataDiff := signedWrappingAdd t.duplicateDataDiff d.wastedSizeDiff
    duplicateDataRemaining := wrappingAdd t.duplicateDataRemaining d.wastedSizeRemaining }

def countFoldability (t : WasteDiffTotals) (d : Diff Foldability) : WasteDiffTotals :=
  { t with
    foldabilityDiff := signedWrappingAdd t.foldabilityDiff d.wastedSizeDiff
    foldabilityRemaining := wrappingAdd t.foldabilityRemaining d.wastedSizeRemaining }

def countWastefulVirtual (t : WasteDiffTotals) (d : WastefulVirtualDiff) : WasteDiffTotals :=
  { t with
    wastefulVirtualDiff := signedWrappingAdd t.wastefulVirtualDiff d.wastedSizeDiff
    wastefulVirtualRemaining := wrappingAdd t.wastefulVirtualRemaining d.diff.wastedSizeRemaining }

def ofComparison (c : Comparison) : WasteDiffTotals :=
  let sum := c.duplicateData.foldl countDuplicateData {}
    + c.foldability.foldl countFoldability {}
    + c.wastefulVirtuals.foldl countWastefulVirtual {}
  let changed := c.wastefulVirtuals.flatMap fun d => d.hierarchyChanges.map (·.typeName)
  { sum with typesChanged := (firstSeen changed).length }

end WasteDiffTotals

structure SingleTotals where
  sections : Nat
  libs : Nat
  compilands : Nat
  sourceFiles : Nat
  symbols : Nat
  size : Nat
  virtualSize : Nat
  waste : WasteTotals
  deriving DecidableEq, Repr

def SingleTotals.ofAnalysis (a : Analysis) : SingleTotals where
  sections := a.sections.length
  libs := a.libs.length
  compilands := a.compilands.length
  sourceFiles := a.sourceFiles.length
  symbols := a.symbols.length
  size := wrappingTotal (a.sections.map (·.size))
  virtualSize := wrappingTotal (a.sections.map (·.virtualSize))
  waste := .ofAnalysis a

structure DiffTotals where
  sizeDiff : Int
  virtualSizeDiff : Int
  sections : ChangeTotals
  libs : ChangeTotals
  compilands : ChangeTotals
  sourceFiles : ChangeTotals
  symbols : ChangeTotals
  waste : WasteDiffTotals
  deriving DecidableEq, Repr

def DiffTotals.ofComparison (c : Comparison) : DiffTotals where
  sizeDiff := signedWrappingTotal (c.sections.map (·.diff.sizeDiff))
  virtualSizeDiff := signedWrappingTotal (c.sections.map (·.diff.virtualSizeDiff))
  sections := .ofDiffs (c.sections.map (·.diff))
  libs := .ofDiffs (c.libs.map (·.diff))
  compilands := .ofDiffs (c.compilands.map (·.diff))
  sourceFiles := .ofDiffs (c.sourceFiles.map (·.diff))
  symbols := .ofDiffs c.symbols
  waste := .ofComparison c

end Footprint
