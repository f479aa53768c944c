import Footprint.Proofs.Mirror
import Footprint.Proofs.Report.Tally
import Footprint.Proofs.Report.Totals
import Footprint.Proofs.Waste.Repricing

namespace Footprint

def Change.opposite : Change → Change
  | added => removed
  | removed => added
  | grown => shrunk
  | shrunk => grown
  | unchanged => unchanged

theorem Change.opposite_opposite (k : Change) : k.opposite.opposite = k := by
  cases k <;> rfl

theorem Change.opposite_injective : opposite.Injective := by
  intro k l h
  rw [← opposite_opposite k, h, opposite_opposite]

section Changes

variable {α : Type} [Sized α] {diffs swapped : List (Diff α)}

theorem Diff.change_swap (d : Diff α) : d.swap.change = d.change.opposite := by
  cases d with
  | beforeOnly b => rfl
  | afterOnly a => rfl
  | both b a =>
    have hsize : (Diff.both a b).sizeDiff = -(Diff.both b a).sizeDiff :=
      (mirrors_swap (.both b a)).sizeDiff
    show (Diff.both a b).change = _
    unfold Diff.change Change.opposite
    grind

theorem Change.tally_of_swap (h : (diffs.map Diff.swap).Perm swapped) (k : Change)
    : k.tally swapped = k.opposite.tally diffs := by
  have hchanges : swapped.map Diff.change |>.Perm ((diffs.map Diff.change).map opposite) := by
    apply (h.map Diff.change).symm.trans
    rw [List.map_map, List.map_map]
    exact .of_eq (List.map_congr_left fun d _ => d.change_swap)
  unfold tally
  rw [hchanges.count_eq, ← k.opposite_opposite, List.count_map_of_injective _ _ opposite_injective,
    opposite_opposite]

namespace ChangeTotals

structure Mirrors (t u : ChangeTotals) : Prop where
  added : u.added = t.removed
  removed : u.removed = t.added
  grown : u.grown = t.shrunk
  shrunk : u.shrunk = t.grown
  unchanged : u.unchanged = t.unchanged
  total : u.total = t.total

theorem mirrors_ofDiffs (h : (diffs.map Diff.swap).Perm swapped)
    : (ofDiffs diffs).Mirrors (ofDiffs swapped) := by
  have htally := Change.tally_of_swap h
  rw [ofDiffs_eq, ofDiffs_eq]
  constructor
  case added => exact htally .added
  case removed => exact htally .removed
  case grown => exact htally .grown
  case shrunk => exact htally .shrunk
  case unchanged => exact htally .unchanged
  case total =>
    dsimp only
    rw [htally .added, htally .removed, htally .grown, htally .shrunk, htally .unchanged]
    unfold Change.opposite
    dsimp only
    ring

end ChangeTotals

end Changes

/--
Whether the totals of a comparison are those of the comparison in the other direction, where amounts
change into what `negate` makes of them.
-/
structure DiffTotals.Mirrors (negate : Int → Int) (t u : DiffTotals) : Prop where
  sizeDiff : u.sizeDiff = negate t.sizeDiff
  virtualSizeDiff : u.virtualSizeDiff = negate t.virtualSizeDiff
  sections : t.sections.Mirrors u.sections
  libs : t.libs.Mirrors u.libs
  compilands : t.compilands.Mirrors u.compilands
  sourceFiles : t.sourceFiles.Mirrors u.sourceFiles
  symbols : t.symbols.Mirrors u.symbols
  duplicateData : u.waste.duplicateDataDiff = negate t.waste.duplicateDataDiff
  foldability : u.waste.foldabilityDiff = negate t.waste.foldabilityDiff
  wastefulVirtual : u.waste.wastefulVirtualDiff = negate t.waste.wastefulVirtualDiff
  total : u.waste.totalDiff = negate t.waste.totalDiff

section Totals

variable {α β : Type} {R : α → β → Prop} {xs : List α} {ys : List β}

theorem Corresponds.sum_neg {f : α → Int} {g : β → Int} (h : Corresponds R xs ys)
    (hfg : ∀ x y, R x y → g y = -f x)
    : (ys.map g).sum = -(xs.map f).sum := by
  rw [List.sum_neg, List.map_map]
  exact (h.perm_map hfg).sum_eq.symm

theorem Corresponds.mirrors_ofDiffs {γ : Type} [Sized γ] {f : α → Diff γ} {g : β → Diff γ}
    (h : Corresponds R xs ys) (hfg : ∀ x y, R x y → (f x).Mirrors (g y))
    : (ChangeTotals.ofDiffs (xs.map f)).Mirrors (.ofDiffs (ys.map g)) := by
  apply ChangeTotals.mirrors_ofDiffs
  rw [List.map_map]
  exact h.perm_map fun x y hxy => (hfg x y hxy).exchanged

end Totals

theorem Comparison.Mirrors.exact {c d : Comparison} (h : c.Mirrors d)
    : (DiffTotals.exact c).Mirrors (- ·) (.exact d) := by
  have hduplicateData := h.duplicateData.sum_neg fun _ _ he => he.wastedSizeDiff
  have hfoldability := h.foldability.sum_neg fun _ _ he => he.wastedSizeDiff
  have hwastefulVirtual := h.wastefulVirtuals.sum_neg fun _ _ he => he.wastedSizeDiff
  unfold DiffTotals.exact WasteDiffTotals.exact DiffTotals.ofComparison
  constructor
  case sizeDiff => exact h.sections.sum_neg fun _ _ he => he.diff.sizeDiff
  case virtualSizeDiff => exact h.sections.sum_neg fun _ _ he => he.diff.virtualSizeDiff
  case sections => exact h.sections.mirrors_ofDiffs fun _ _ he => he.diff
  case libs => exact h.libs.mirrors_ofDiffs fun _ _ he => he.diff
  case compilands => exact h.compilands.mirrors_ofDiffs fun _ _ he => he.diff
  case sourceFiles => exact h.sourceFiles.mirrors_ofDiffs fun _ _ he => he.diff
  case symbols =>
    have hsymbols := h.symbols.mirrors_ofDiffs (f := id) (g := id) fun _ _ he => he
    rwa [List.map_id, List.map_id] at hsymbols
  case duplicateData => exact hduplicateData
  case foldability => exact hfoldability
  case wastefulVirtual => exact hwastefulVirtual
  case total =>
    dsimp only
    rw [hduplicateData, hfoldability, hwastefulVirtual]
    ring

theorem DiffTotals.Mirrors.wrapped {t u : DiffTotals} (h : t.Mirrors (- ·) u)
    : t.wrapped.Mirrors (fun i => Quantity.signedWrap (-i)) u.wrapped where
  sizeDiff := Quantity.signedWrap_neg h.sizeDiff
  virtualSizeDiff := Quantity.signedWrap_neg h.virtualSizeDiff
  sections := h.sections
  libs := h.libs
  compilands := h.compilands
  sourceFiles := h.sourceFiles
  symbols := h.symbols
  duplicateData := Quantity.signedWrap_neg h.duplicateData
  foldability := Quantity.signedWrap_neg h.foldability
  wastefulVirtual := Quantity.signedWrap_neg h.wastefulVirtual
  total := Quantity.signedWrap_neg h.total

theorem Comparison.mirrors_of_exchanged {s t : Snapshot} {options : AnalysisOptions}
    {similarity : Similarity} {m n : Monitor} {c d : Comparison}
    (hc : (compareSnapshots s t options similarity m).1 = .ok c)
    (hd : (compareSnapshots t s options similarity n).1 = .ok d)
    : c.Mirrors d ∧ (DiffTotals.exact c).Mirrors (- ·) (.exact d)
      ∧ (DiffTotals.ofComparison c).Mirrors (fun i => Quantity.signedWrap (-i)) (.ofComparison d)
      ∧ ∃ x y, (s.analyze options similarity).result = .ok x
        ∧ (t.analyze options similarity).result = .ok y
        ∧ ∀ typeName, c.Drops x y typeName ↔ d.Drops y x typeName := by
  obtain ⟨x, y, hx, hy, hresult⟩ := exists_result_of_compareSnapshots hc
  obtain ⟨y', x', hy', hx', hswapped⟩ := exists_result_of_compareSnapshots hd
  obtain rfl := Except.ok.inj (hx.symm.trans hx')
  obtain rfl := Except.ok.inj (hy.symm.trans hy')
  have hpairs := pairs_of_result hresult
  have hswappedPairs := pairs_of_result hswapped
  have hmirrors := hpairs.mirrors hswappedPairs
  have htotals := hmirrors.exact.wrapped
  rw [← DiffTotals.ofComparison_eq, ← DiffTotals.ofComparison_eq] at htotals
  exact ⟨hmirrors, hmirrors.exact, htotals, x, y, hx, hy, hpairs.drops_iff hswappedPairs⟩

theorem Comparison.mirrors_of_exchanged_shapeBuild
    : ∃ c d, (compareSnapshots (shapeBuild 8 ["Circle"] ["draw"])
          (shapeBuild 8 ["Circle", "Square"] ["draw"]) {} byteSimilarity (.start none)).1 = .ok c
        ∧ (compareSnapshots (shapeBuild 8 ["Circle", "Square"] ["draw"])
          (shapeBuild 8 ["Circle"] ["draw"]) {} byteSimilarity (.start none)).1 = .ok d
        ∧ c.Mirrors d ∧ (DiffTotals.exact c).Mirrors (- ·) (.exact d)
        ∧ c.wastefulVirtuals.map (·.hierarchyChanges) = [[⟨"Square", 8⟩]]
        ∧ d.wastefulVirtuals.map (·.hierarchyChanges) = [[⟨"Square", -8⟩]] := by
  have hfew := result_find_shapeBuild (8, ["Circle"], ["draw"]) (by decide)
  have hmany := result_find_shapeBuild (8, ["Circle", "Square"], ["draw"]) (by decide)
  obtain ⟨c, hc, hdiffs⟩ := exists_comparison_shapeBuild hfew hmany rfl
  obtain ⟨d, hd, hswapped⟩ := exists_comparison_shapeBuild hmany hfew rfl
  have ⟨hmirrors, htotals, _⟩ := mirrors_of_exchanged hc hd
  refine ⟨c, d, hc, hd, hmirrors, htotals, ?_, ?_⟩
  . rw [hdiffs]
    decide
  . rw [hswapped]
    decide

end Footprint
