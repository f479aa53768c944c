import Footprint.Proofs.Analysis
import Footprint.Proofs.Comparison
import Footprint.Proofs.Waste.DuplicateClasses
import Footprint.Proofs.Waste.Occurrences
import Footprint.Proofs.Waste.SlotChanges
import Footprint.Proofs.Waste.Slots
import Footprint.Proofs.Waste.WastefulVirtual
import Footprint.Report
import Mathlib.Tactic.Ring

/-!
This module contains what the totals of reports come to. They are what 64 bits hold of the exact
totals, which are sums over lists. The exact totals of a comparison are the differences of those of
its analyses.
-/

namespace Footprint

open Quantity (wrap wrappingAdd signedWrap signedWrappingAdd)

namespace WasteTotals

def exact (a : Analysis) : WasteTotals where
  duplicateDataItems := a.duplicateData.length
  duplicateDataCompilands := (firstSeen (a.duplicateData.flatMap (·.referencedIn))).length
  duplicateDataWasted := (a.duplicateData.map Wasteful.wastedSize).sum
  foldabilityItems := a.foldability.length
  foldabilityWasted := (a.foldability.map Wasteful.wastedSize).sum
  wastefulVirtualItems := a.wastefulVirtuals.length
  wastefulVirtualComTypes := a.wastefulVirtuals.countP (·.isComType)
  wastefulVirtualWasted := (a.wastefulVirtuals.map Wasteful.wastedSize).sum
  totalWasted := (a.duplicateData.map Wasteful.wastedSize).sum
    + (a.foldability.map Wasteful.wastedSize).sum
    + (a.wastefulVirtuals.map Wasteful.wastedSize).sum

def wrapped (t : WasteTotals) : WasteTotals :=
  { t with
    duplicateDataWasted := wrap t.duplicateDataWasted
    foldabilityWasted := wrap t.foldabilityWasted
    wastefulVirtualWasted := wrap t.wastefulVirtualWasted
    totalWasted := wrap t.totalWasted }

theorem add_def (a b : WasteTotals) : a + b = WasteTotals.add a b := by
  rfl

theorem foldl_countDuplicateData (items : List DuplicateData) (t : WasteTotals)
    : items.foldl countDuplicateData t = { t with
        duplicateDataItems := t.duplicateDataItems + items.length
        duplicateDataWasted :=
          (items.map Wasteful.wastedSize).foldl wrappingAdd t.duplicateDataWasted } := by
  induction items generalizing t with
  | nil => rfl
  | cons d items ih =>
    rw [List.foldl_cons, ih]
    simp [countDuplicateData, Wasteful.wastedSize, Nat.add_assoc, Nat.add_comm 1]

theorem foldl_countFoldability (items : List Foldability) (t : WasteTotals)
    : items.foldl countFoldability t = { t with
        foldabilityItems := t.foldabilityItems + items.length
        foldabilityWasted :=
          (items.map Wasteful.wastedSize).foldl wrappingAdd t.foldabilityWasted } := by
  induction items generalizing t with
  | nil => rfl
  | cons f items ih =>
    rw [List.foldl_cons, ih]
    simp [countFoldability, Wasteful.wastedSize, Nat.add_assoc, Nat.add_comm 1]

theorem foldl_countWastefulVirtual (items : List WastefulVirtual) (t : WasteTotals)
    : items.foldl countWastefulVirtual t = { t with
        wastefulVirtualItems := t.wastefulVirtualItems + items.length
        wastefulVirtualComTypes := t.wastefulVirtualComTypes + items.countP (·.isComType)
        wastefulVirtualWasted :=
          (items.map Wasteful.wastedSize).foldl wrappingAdd t.wastefulVirtualWasted } := by
  induction items generalizing t with
  | nil => rfl
  | cons v items ih =>
    rw [List.foldl_cons, ih]
    simp [countWastefulVirtual, Wasteful.wastedSize, List.countP_cons, Nat.add_assoc,
      Nat.add_comm 1, Nat.add_comm (if _ then _ else _)]

theorem ofAnalysis_eq (a : Analysis) : ofAnalysis a = (exact a).wrapped := by
  unfold ofAnalysis
  rw [foldl_countDuplicateData, foldl_countFoldability, foldl_countWastefulVirtual]
  have htotal (counts : List Nat) : counts.foldl wrappingAdd 0 = wrap counts.sum :=
    Quantity.wrappingTotal_eq counts
  simp only [add_def, WasteTotals.add, wrapped, exact, htotal, wrappingAdd, Nat.add_zero,
    Nat.zero_add, Quantity.wrap_wrap_add, Quantity.wrap_add_wrap, Quantity.wrap_wrap]

theorem wrapped_of_lt {t : WasteTotals} (h : t.totalWasted < wordLimit)
    (hparts : t.duplicateDataWasted + t.foldabilityWasted + t.wastefulVirtualWasted
      = t.totalWasted)
    : t.wrapped = t := by
  unfold wrapped
  rw [Quantity.wrap_of_lt, Quantity.wrap_of_lt, Quantity.wrap_of_lt, Quantity.wrap_of_lt]
  all_goals omega

theorem ofAnalysis_of_lt {a : Analysis} (h : (exact a).totalWasted < wordLimit)
    : ofAnalysis a = exact a := by
  rw [ofAnalysis_eq]
  exact wrapped_of_lt h rfl

end WasteTotals

namespace WasteDiffTotals

def exact (c : Comparison) : WasteDiffTotals where
  duplicateDataDiff := (c.duplicateData.map Diff.wastedSizeDiff).sum
  duplicateDataRemaining := (c.duplicateData.map Diff.wastedSizeRemaining).sum
  foldabilityDiff := (c.foldability.map Diff.wastedSizeDiff).sum
  foldabilityRemaining := (c.foldability.map Diff.wastedSizeRemaining).sum
  wastefulVirtualDiff := (c.wastefulVirtuals.map (·.wastedSizeDiff)).sum
  wastefulVirtualRemaining := (c.wastefulVirtuals.map (·.diff.wastedSizeRemaining)).sum
  typesChanged :=
    (firstSeen (c.wastefulVirtuals.flatMap fun d => d.hierarchyChanges.map (·.typeName))).length
  totalDiff := (c.duplicateData.map Diff.wastedSizeDiff).sum
    + (c.foldability.map Diff.wastedSizeDiff).sum
    + (c.wastefulVirtuals.map (·.wastedSizeDiff)).sum

def wrapped (t : WasteDiffTotals) : WasteDiffTotals :=
  { t with
    duplicateDataDiff := signedWrap t.duplicateDataDiff
    duplicateDataRemaining := wrap t.duplicateDataRemaining
    foldabilityDiff := signedWrap t.foldabilityDiff
    foldabilityRemaining := wrap t.foldabilityRemaining
    wastefulVirtualDiff := signedWrap t.wastefulVirtualDiff
    wastefulVirtualRemaining := wrap t.wastefulVirtualRemaining
    totalDiff := signedWrap t.totalDiff }

structure InRange (t : WasteDiffTotals) : Prop where
  duplicateDataDiff : Quantity.IsSigned t.duplicateDataDiff
  duplicateDataRemaining : t.duplicateDataRemaining < wordLimit
  foldabilityDiff : Quantity.IsSigned t.foldabilityDiff
  foldabilityRemaining : t.foldabilityRemaining < wordLimit
  wastefulVirtualDiff : Quantity.IsSigned t.wastefulVirtualDiff
  wastefulVirtualRemaining : t.wastefulVirtualRemaining < wordLimit
  totalDiff : Quantity.IsSigned t.totalDiff

theorem add_def (a b : WasteDiffTotals) : a + b = WasteDiffTotals.add a b := by
  rfl

theorem foldl_countDuplicateData (diffs : List (Diff DuplicateData)) (t : WasteDiffTotals)
    : diffs.foldl countDuplicateData t = { t with
        duplicateDataDiff :=
          (diffs.map Diff.wastedSizeDiff).foldl signedWrappingAdd t.duplicateDataDiff
        duplicateDataRemaining :=
          (diffs.map Diff.wastedSizeRemaining).foldl wrappingAdd t.duplicateDataRemaining } := by
  induction diffs generalizing t with
  | nil => rfl
  | cons d diffs ih => exact ih _

theorem foldl_countFoldability (diffs : List (Diff Foldability)) (t : WasteDiffTotals)
    : diffs.foldl countFoldability t = { t with
        foldabilityDiff :=
          (diffs.map Diff.wastedSizeDiff).foldl signedWrappingAdd t.foldabilityDiff
        foldabilityRemaining :=
          (diffs.map Diff.wastedSizeRemaining).foldl wrappingAdd t.foldabilityRemaining } := by
  induction diffs generalizing t with
  | nil => rfl
  | cons d diffs ih => exact ih _

theorem foldl_countWastefulVirtual (diffs : List WastefulVirtualDiff) (t : WasteDiffTotals)
    : diffs.foldl countWastefulVirtual t = { t with
        wastefulVirtualDiff :=
          (diffs.map (·.wastedSizeDiff)).foldl signedWrappingAdd t.wastefulVirtualDiff
        wastefulVirtualRemaining :=
          (diffs.map (·.diff.wastedSizeRemaining)).foldl wrappingAdd
            t.wastefulVirtualRemaining } := by
  induction diffs generalizing t with
  | nil => rfl
  | cons d diffs ih => exact ih _

theorem ofComparison_eq (c : Comparison) : ofComparison c = (exact c).wrapped := by
  unfold ofComparison
  rw [foldl_countDuplicateData, foldl_countFoldability, foldl_countWastefulVirtual]
  have htotal (counts : List Nat) : counts.foldl wrappingAdd 0 = wrap counts.sum :=
    Quantity.wrappingTotal_eq counts
  have hsignedTotal (amounts : List Int)
      : amounts.foldl signedWrappingAdd 0 = signedWrap amounts.sum :=
    Quantity.signedWrappingTotal_eq amounts
  simp only [add_def, WasteDiffTotals.add, wrapped, exact, htotal, hsignedTotal, wrappingAdd,
    signedWrappingAdd, Nat.add_zero, Nat.zero_add, Int.add_zero, Int.zero_add,
    Quantity.wrap_wrap_add, Quantity.wrap_add_wrap, Quantity.wrap_wrap,
    Quantity.signedWrap_signedWrap_add, Quantity.signedWrap_add_signedWrap,
    Quantity.signedWrap_signedWrap]

theorem wrapped_of_inRange {t : WasteDiffTotals} (h : t.InRange) : t.wrapped = t := by
  unfold wrapped
  rw [Quantity.signedWrap_of_isSigned h.duplicateDataDiff,
    Quantity.wrap_of_lt h.duplicateDataRemaining, Quantity.signedWrap_of_isSigned h.foldabilityDiff,
    Quantity.wrap_of_lt h.foldabilityRemaining,
    Quantity.signedWrap_of_isSigned h.wastefulVirtualDiff,
    Quantity.wrap_of_lt h.wastefulVirtualRemaining, Quantity.signedWrap_of_isSigned h.totalDiff]

theorem ofComparison_of_inRange {c : Comparison} (h : (exact c).InRange)
    : ofComparison c = exact c := by
  rw [ofComparison_eq]
  exact wrapped_of_inRange h

end WasteDiffTotals

namespace SingleTotals

def exact (a : Analysis) : SingleTotals :=
  { ofAnalysis a with
    size := (a.sections.map (·.size)).sum
    virtualSize := (a.sections.map (·.virtualSize)).sum
    waste := .exact a }

def wrapped (t : SingleTotals) : SingleTotals :=
  { t with size := wrap t.size, virtualSize := wrap t.virtualSize, waste := t.waste.wrapped }

theorem ofAnalysis_eq (a : Analysis) : ofAnalysis a = (exact a).wrapped := by
  unfold ofAnalysis wrapped exact ofAnalysis
  rw [Quantity.wrappingTotal_eq, Quantity.wrappingTotal_eq, WasteTotals.ofAnalysis_eq]

end SingleTotals

namespace DiffTotals

def exact (c : Comparison) : DiffTotals :=
  { ofComparison c with
    sizeDiff := (c.sections.map (·.diff.sizeDiff)).sum
    virtualSizeDiff := (c.sections.map (·.diff.virtualSizeDiff)).sum
    waste := .exact c }

def wrapped (t : DiffTotals) : DiffTotals :=
  { t with
    sizeDiff := signedWrap t.sizeDiff
    virtualSizeDiff := signedWrap t.virtualSizeDiff
    waste := t.waste.wrapped }

theorem ofComparison_eq (c : Comparison) : ofComparison c = (exact c).wrapped := by
  unfold ofComparison wrapped exact ofComparison
  rw [Quantity.signedWrappingTotal_eq, Quantity.signedWrappingTotal_eq,
    WasteDiffTotals.ofComparison_eq]

structure InRange (t : DiffTotals) : Prop where
  sizeDiff : Quantity.IsSigned t.sizeDiff
  virtualSizeDiff : Quantity.IsSigned t.virtualSizeDiff
  waste : t.waste.InRange

theorem ofComparison_of_inRange {c : Comparison} (h : (exact c).InRange)
    : ofComparison c = exact c := by
  rw [ofComparison_eq]
  unfold wrapped
  rw [Quantity.signedWrap_of_isSigned h.sizeDiff, Quantity.signedWrap_of_isSigned h.virtualSizeDiff,
    WasteDiffTotals.wrapped_of_inRange h.waste]

end DiffTotals

theorem SidesAddUp.sum_wastedSizeRemaining {α : Type} [Wasteful α] {diffs : List (Diff α)}
    {before after : List α} (h : SidesAddUp diffs before after)
    : (diffs.map Diff.wastedSizeRemaining).sum = (after.map Wasteful.wastedSize).sum := by
  exact h.after Wasteful.wastedSize

namespace Comparison

variable {c : Comparison} {x y : Analysis}

theorem Pairs.sidesAddUp_sections (h : c.Pairs x y)
    : SidesAddUp (c.sections.map (·.diff)) x.sections y.sections := by
  have ⟨pairs, hpairs, hall⟩ := diffSections_eq_ok.1 h.sections
  rw [map_diff_of_diffSections hall]
  exact sidesAddUp_of_pairByKey hpairs

theorem Pairs.sidesAddUp_duplicateData (h : c.Pairs x y)
    : SidesAddUp c.duplicateData x.duplicateData y.duplicateData := by
  exact DuplicateData.sidesAddUp_of_diff h.duplicateData

theorem Pairs.sidesAddUp_foldability (h : c.Pairs x y)
    : SidesAddUp c.foldability x.foldability y.foldability := by
  exact sidesAddUp_of_pairByKey h.foldability

theorem Pairs.exists_sum_wastedSizeDiff (h : c.Pairs x y)
    : ∃ pairs, SidesAddUp pairs x.wastefulVirtuals y.wastefulVirtuals
        ∧ (c.wastefulVirtuals.map (·.wastedSizeDiff)).sum
          = (pairs.map Diff.wastedSizeDiff).sum := by
  obtain ⟨pairs, hpairs, hdiffs⟩ := WastefulVirtualDiff.diff_eq_ok_iff.1 h.wastefulVirtuals
  refine ⟨pairs, sidesAddUp_of_pairByKey hpairs, ?_⟩
  rw [← hdiffs]
  refine (WastefulVirtualDiff.sum_map_changed Diff.wastedSizeDiff pairs).trans ?_
  congr 1
  apply List.map_congr_left
  intro d _
  split
  . next hunchanged => exact (WastefulVirtualDiff.isUnchanged_ofDiff.1 hunchanged).2.symm
  . rfl

theorem Pairs.sum_remaining_wastefulVirtuals_le (h : c.Pairs x y)
    : (c.wastefulVirtuals.map (·.diff.wastedSizeRemaining)).sum
        ≤ (y.wastefulVirtuals.map Wasteful.wastedSize).sum := by
  obtain ⟨pairs, hpairs, hdiffs⟩ := WastefulVirtualDiff.diff_eq_ok_iff.1 h.wastefulVirtuals
  rw [← (sidesAddUp_of_pairByKey hpairs).sum_wastedSizeRemaining, ← hdiffs]
  refine (WastefulVirtualDiff.sum_map_changed Diff.wastedSizeRemaining pairs).trans_le ?_
  apply List.sum_le_sum
  intro d _
  split
  . exact Nat.zero_le _
  . exact le_rfl

end Comparison

structure SingleTotals.InRange (t : SingleTotals) : Prop where
  size : t.size ≤ maxSigned
  virtualSize : t.virtualSize ≤ maxSigned
  totalWasted : t.waste.totalWasted ≤ maxSigned

structure DiffTotals.Subtracts (d : DiffTotals) (before after : SingleTotals) : Prop where
  sizeDiff : d.sizeDiff = after.size - before.size
  virtualSizeDiff : d.virtualSizeDiff = after.virtualSize - before.virtualSize
  duplicateData : d.waste.duplicateDataDiff
    = after.waste.duplicateDataWasted - before.waste.duplicateDataWasted
  foldability : d.waste.foldabilityDiff
    = after.waste.foldabilityWasted - before.waste.foldabilityWasted
  wastefulVirtual : d.waste.wastefulVirtualDiff
    = after.waste.wastefulVirtualWasted - before.waste.wastefulVirtualWasted
  total : d.waste.totalDiff = after.waste.totalWasted - before.waste.totalWasted

theorem SingleTotals.ofAnalysis_of_inRange {a : Analysis} (h : (exact a).InRange)
    : ofAnalysis a = exact a := by
  have hlt : maxSigned < wordLimit := by decide
  rw [ofAnalysis_eq]
  unfold wrapped
  rw [Quantity.wrap_of_lt (h.size.trans_lt hlt), Quantity.wrap_of_lt (h.virtualSize.trans_lt hlt),
    WasteTotals.wrapped_of_lt (h.totalWasted.trans_lt hlt) rfl]

theorem SingleTotals.wasted_le_of_inRange {a : Analysis} (h : (exact a).InRange)
    : (exact a).waste.duplicateDataWasted ≤ maxSigned
      ∧ (exact a).waste.foldabilityWasted ≤ maxSigned
      ∧ (exact a).waste.wastefulVirtualWasted ≤ maxSigned := by
  have htotal := h.totalWasted
  unfold exact WasteTotals.exact at htotal ⊢
  dsimp only at htotal ⊢
  omega

theorem DiffTotals.subtracts_exact {c : Comparison} {x y : Analysis} (h : c.Pairs x y)
    (hbefore : (SingleTotals.exact x).InRange) (hafter : (SingleTotals.exact y).InRange)
    : (exact c).Subtracts (.exact x) (.exact y) := by
  have ⟨hdata, hfoldable, hslots⟩ := SingleTotals.wasted_le_of_inRange hbefore
  have ⟨hdata', hfoldable', hslots'⟩ := SingleTotals.wasted_le_of_inRange hafter
  have hsize := h.sidesAddUp_sections.sum_deltaBy Sized.size hbefore.size hafter.size
  have hvirtualSize :=
    h.sidesAddUp_sections.sum_deltaBy Sized.virtualSize hbefore.virtualSize hafter.virtualSize
  have hduplicateData : (c.duplicateData.map Diff.wastedSizeDiff).sum = _ :=
    h.sidesAddUp_duplicateData.sum_deltaBy Wasteful.wastedSize hdata hdata'
  have hfoldability : (c.foldability.map Diff.wastedSizeDiff).sum = _ :=
    h.sidesAddUp_foldability.sum_deltaBy Wasteful.wastedSize hfoldable hfoldable'
  have ⟨pairs, hpairs, hsum⟩ := h.exists_sum_wastedSizeDiff
  have hwastefulVirtual := hsum.trans (hpairs.sum_deltaBy Wasteful.wastedSize hslots hslots')
  rw [List.map_map] at hsize hvirtualSize
  refine ⟨hsize, hvirtualSize, hduplicateData, hfoldability, hwastefulVirtual, ?_⟩
  show _ + _ + _ = _
  rw [hduplicateData, hfoldability, hwastefulVirtual]
  unfold SingleTotals.exact WasteTotals.exact
  push_cast
  ring

theorem DiffTotals.inRange_exact {c : Comparison} {x y : Analysis} (h : c.Pairs x y)
    (hbefore : (SingleTotals.exact x).InRange) (hafter : (SingleTotals.exact y).InRange)
    : (exact c).InRange := by
  have hsubtracts := subtracts_exact h hbefore hafter
  have ⟨hsize, hvirtual, htotal⟩ := hbefore
  have ⟨hsize', hvirtual', htotal'⟩ := hafter
  have ⟨hdata, hfoldable, hslots⟩ := SingleTotals.wasted_le_of_inRange hbefore
  have ⟨hdata', hfoldable', hslots'⟩ := SingleTotals.wasted_le_of_inRange hafter
  have hsigned {n k : Nat} {i : Int} (hi : i = n - k) (hn : n ≤ maxSigned) (hk : k ≤ maxSigned)
      : Quantity.IsSigned i := by
    rw [hi]
    constructor <;> omega
  have hlt {n : Nat} (hn : n ≤ maxSigned) : n < wordLimit := hn.trans_lt (by decide)
  constructor
  case sizeDiff => exact hsigned hsubtracts.sizeDiff hsize' hsize
  case virtualSizeDiff => exact hsigned hsubtracts.virtualSizeDiff hvirtual' hvirtual
  case waste =>
    constructor
    case duplicateDataDiff => exact hsigned hsubtracts.duplicateData hdata' hdata
    case foldabilityDiff => exact hsigned hsubtracts.foldability hfoldable' hfoldable
    case wastefulVirtualDiff => exact hsigned hsubtracts.wastefulVirtual hslots' hslots
    case totalDiff => exact hsigned hsubtracts.total htotal' htotal
    case duplicateDataRemaining =>
      apply hlt
      exact h.sidesAddUp_duplicateData.sum_wastedSizeRemaining.trans_le hdata'
    case foldabilityRemaining =>
      apply hlt
      exact h.sidesAddUp_foldability.sum_wastedSizeRemaining.trans_le hfoldable'
    case wastefulVirtualRemaining =>
      apply hlt
      exact h.sum_remaining_wastefulVirtuals_le.trans hslots'

theorem Report.totals_subtract {before after : Snapshot} {options : AnalysisOptions}
    {similarity : Similarity} {k l m : Monitor} {x y : Analysis} {c : Comparison}
    (hx : ((before.analyze options similarity).run k).1 = .ok x)
    (hy : ((after.analyze options similarity).run l).1 = .ok y)
    (hc : (compareSnapshots before after options similarity m).1 = .ok c)
    (hbefore : (SingleTotals.exact x).InRange) (hafter : (SingleTotals.exact y).InRange)
    : (DiffTotals.ofComparison c).Subtracts (.ofAnalysis x) (.ofAnalysis y)
      ∧ (ofComparison c).wastedSize = (ofAnalysis y).wastedSize - (ofAnalysis x).wastedSize := by
  have hpairs := Comparison.pairs_of_result (result_of_compareSnapshots hc hx hy)
  have hsubtracts : (DiffTotals.ofComparison c).Subtracts (.ofAnalysis x) (.ofAnalysis y) := by
    rw [DiffTotals.ofComparison_of_inRange (DiffTotals.inRange_exact hpairs hbefore hafter),
      SingleTotals.ofAnalysis_of_inRange hbefore, SingleTotals.ofAnalysis_of_inRange hafter]
    exact DiffTotals.subtracts_exact hpairs hbefore hafter
  refine ⟨hsubtracts, ?_⟩
  have hwasted {a : Analysis} (ha : (SingleTotals.exact a).InRange)
      : (ofAnalysis a).wastedSize = (SingleTotals.ofAnalysis a).waste.totalWasted := by
    show Quantity.toSigned (SingleTotals.ofAnalysis a).waste.totalWasted = _
    rw [SingleTotals.ofAnalysis_of_inRange ha, Quantity.toSigned_of_le ha.totalWasted]
  rw [hwasted hbefore, hwasted hafter]
  exact hsubtracts.total

def shapesBuild (size : Nat) (tables : List UInt8) (solids : List String) : Snapshot where
  sections := [{ name := ".text", size, virtualSize := 2 * size }]
  compilands := [{ name := "a.obj", lib := "x.lib" }, { name := "b.obj", lib := "x.lib" }]
  staticData := tables.zipIdx.flatMap fun (content, i) => [
    { name := "table", rva := 16 * i, size := 8, compiland := "a.obj", bytes := [content] },
    { name := "table", rva := 16 * i + 8, size := 8, compiland := "b.obj", bytes := [content] }]
  userDefinedTypes := [
      { name := "Shape", functions := [{ name := "draw", isVirtual := true }] },
      { name := "Circle", baseTypes := ["Shape"] },
      { name := "Solid", functions := [{ name := "weigh", isVirtual := true }] }]
    ++ solids.map fun name => { name, baseTypes := ["Solid"] }

def earlierBuild : Snapshot := shapesBuild 32 [1, 2] ["Cube"]

def laterBuild : Snapshot := shapesBuild 30 [2] ["Cube", "Ball", "Cone"]

def copiedTable (rva : Nat) (content : UInt8) : DuplicateData where
  symbol := { name := "table", rva, size := 8, compiland := "a.obj", bytes := [content] }
  referencedIn := ["a.obj", "b.obj"]
  totalSize := 16
  totalVirtualSize := 0
  wastedSize := 8

def copies (rva : Nat) (content : UInt8) : Copies where
  symbol := (copiedTable rva content).symbol
  referencedIn := ["a.obj", "b.obj"]

theorem finish_copies (rva : Nat) (content : UInt8)
    : (copies rva content).finish = .ok (copiedTable rva content) := by
  apply DuplicateData.finish_of_sorted
  . show ["a.obj", "b.obj"].Pairwise (· ≤ ·)
    decide
  . show 8 * 2 < wordLimit
    decide
  . show 0 * 2 < wordLimit
    decide

theorem exists_results_builds
    : ∃ x y c, (earlierBuild.analyze {} byteSimilarity).result = .ok x
        ∧ (laterBuild.analyze {} byteSimilarity).result = .ok y
        ∧ (Comparison.ofAnalyses x y).result = .ok c
        ∧ (SingleTotals.exact x).InRange ∧ (SingleTotals.exact y).InRange
        ∧ (WasteTotals.ofAnalysis x).totalWasted = 48
        ∧ (WasteTotals.ofAnalysis y).totalWasted = 56
        ∧ (WasteTotals.ofAnalysis y).wastefulVirtualWasted = 48
        ∧ (WasteDiffTotals.ofComparison c).wastefulVirtualRemaining = 32 := by
  have hdata₁ : (DuplicateData.find earlierBuild).result
      = .ok [copiedTable 0 1, copiedTable 16 2] := by
    have hbuilt : DuplicateData.built earlierBuild = [copies 0 1, copies 16 2] := by decide
    have hfinish : (DuplicateData.built earlierBuild).mapM Copies.finish
        = .ok [copiedTable 0 1, copiedTable 16 2] := by
      rw [hbuilt, List.mapM_cons, List.mapM_cons, finish_copies, finish_copies]
      rfl
    exact DuplicateData.result_find_of_finish hfinish
  have hdata₂ : (DuplicateData.find laterBuild).result = .ok [copiedTable 0 2] := by
    have hbuilt : DuplicateData.built laterBuild = [copies 0 2] := by decide
    have hfinish : (DuplicateData.built laterBuild).mapM Copies.finish = .ok [copiedTable 0 2] := by
      rw [hbuilt, List.mapM_cons, finish_copies]
      rfl
    exact DuplicateData.result_find_of_finish hfinish
  have hvirtuals₁ : (WastefulVirtual.find false earlierBuild).result = .ok [
      WastefulVirtualDiff.unusedIn "Shape" ["Circle"] ["draw"],
      WastefulVirtualDiff.unusedIn "Solid" ["Cube"] ["weigh"]] := by
    rw [WastefulVirtual.result_find_eq_ofType false (by decide)]
    decide +kernel
  have hvirtuals₂ : (WastefulVirtual.find false laterBuild).result = .ok [
      WastefulVirtualDiff.unusedIn "Shape" ["Circle"] ["draw"],
      WastefulVirtualDiff.unusedIn "Solid" ["Cube", "Ball", "Cone"] ["weigh"]] := by
    rw [WastefulVirtual.result_find_eq_ofType false (by decide)]
    decide +kernel
  rw [Snapshot.result_analyze, Snapshot.result_analyze, hdata₁, hdata₂]
  dsimp only
  rw [hvirtuals₁, hvirtuals₂]
  exact ⟨_, _, _, rfl, rfl, rfl, ⟨by decide, by decide, by decide⟩,
    ⟨by decide, by decide, by decide⟩, rfl, rfl, rfl, rfl⟩

theorem Report.totals_subtract_builds
    : ∃ x y c, ((earlierBuild.analyze {} byteSimilarity).run (.start none)).1 = .ok x
        ∧ ((laterBuild.analyze {} byteSimilarity).run (.start none)).1 = .ok y
        ∧ (compareSnapshots earlierBuild laterBuild {} byteSimilarity (.start none)).1 = .ok c
        ∧ (DiffTotals.ofComparison c).Subtracts (.ofAnalysis x) (.ofAnalysis y)
        ∧ (ofComparison c).wastedSize = 8 := by
  obtain ⟨x, y, c, hx, hy, hc, hxin, hyin, hbefore, hafter, _⟩ := exists_results_builds
  have hcompare := compareSnapshots_of_result (m := .start none) rfl rfl hx hy hc
  rw [← Pass.run_start_none] at hx hy
  have ⟨hsubtracts, hwasted⟩ := totals_subtract hx hy hcompare hxin hyin
  refine ⟨x, y, c, hx, hy, hcompare, hsubtracts, hwasted.trans ?_⟩
  show Quantity.toSigned (WasteTotals.ofAnalysis y).totalWasted
    - Quantity.toSigned (WasteTotals.ofAnalysis x).totalWasted = 8
  rw [hbefore, hafter]
  rfl

end Footprint
