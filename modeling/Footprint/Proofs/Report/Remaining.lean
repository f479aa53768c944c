import Footprint.Proofs.Report.Totals

/-!
This module contains what the totals of a comparison call the remaining waste. It is the waste of
the later build, except for types that wasted the same slots before, which are left out.
-/

namespace Footprint

variable {x y : Analysis} {c : Comparison}

namespace Diff

instance (d : Diff WastefulVirtual) : Decidable d.SameSlots :=
  match d with
  | beforeOnly _ => inferInstanceAs (Decidable False)
  | afterOnly _ => inferInstanceAs (Decidable False)
  | both _ _ => inferInstanceAs (Decidable (_ ∧ _))

end Diff

namespace WastefulVirtual

def StaysSame (v : WastefulVirtual) (before : List WastefulVirtual) : Prop :=
  ∃ b ∈ before, b.typeName = v.typeName ∧ (Diff.both b v).SameSlots
    ∧ (Diff.both b v).wastedSizeDiff = 0

instance (v : WastefulVirtual) (before : List WastefulVirtual) : Decidable (v.StaysSame before) :=
  inferInstanceAs (Decidable (∃ b ∈ before, _))

theorem staysSame_iff {before after : List WastefulVirtual} {pairs : List (Diff WastefulVirtual)}
    (h : pairByKey typeName before after = .ok pairs) {d : Diff WastefulVirtual} (hd : d ∈ pairs)
    {v : WastefulVirtual} (hv : d.after? = some v)
    : v.StaysSame before ↔ (WastefulVirtualDiff.ofDiff d).isUnchanged = true := by
  have ⟨hbefore, _, _⟩ := pairByKey_eq_ok.1 h
  have ⟨hfindBefore, hfindAfter⟩ := sides_of_mem h hd
  have hname : v.typeName = d.either.typeName := by
    rw [hv] at hfindAfter
    simpa using List.find?_some hfindAfter.symm
  rw [← hname] at hfindBefore
  have hsame : v.StaysSame before ↔ ∃ b, d.before? = some b
      ∧ (Diff.both b v).SameSlots ∧ (Diff.both b v).wastedSizeDiff = 0 := by
    unfold StaysSame
    simp only [hfindBefore, find?_key_eq_some_iff hbefore, and_assoc]
  rw [hsame, WastefulVirtualDiff.isUnchanged_ofDiff]
  cases d with
  | beforeOnly b => cases hv
  | afterOnly a => simp [Diff.before?, Diff.SameSlots]
  | both b a =>
    cases hv
    simp [Diff.before?]

end WastefulVirtual

theorem ite_isUnchanged {before after : List WastefulVirtual} {pairs : List (Diff WastefulVirtual)}
    (h : pairByKey WastefulVirtual.typeName before after = .ok pairs) {d : Diff WastefulVirtual}
    (hd : d ∈ pairs)
    : (if (WastefulVirtualDiff.ofDiff d).isUnchanged then 0 else d.wastedSizeRemaining)
        = d.after?.elim 0 fun v => if v.StaysSame before then 0 else v.wastedSize := by
  unfold Diff.wastedSizeRemaining
  cases hv : d.after? with
  | none => simp
  | some v =>
    simp only [← WastefulVirtual.staysSame_iff h hd hv]
    rfl

theorem Comparison.Pairs.sum_remaining_wastefulVirtuals (h : c.Pairs x y)
    : (c.wastefulVirtuals.map (·.diff.wastedSizeRemaining)).sum
          + ((y.wastefulVirtuals.filter (·.StaysSame x.wastefulVirtuals)).map
            Wasteful.wastedSize).sum
        = (y.wastefulVirtuals.map Wasteful.wastedSize).sum := by
  obtain ⟨pairs, hpairs, hdiffs⟩ := WastefulVirtualDiff.diff_eq_ok_iff.1 h.wastefulVirtuals
  have hcounted := WastefulVirtualDiff.sum_map_changed Diff.wastedSizeRemaining pairs
  rw [hdiffs, List.map_congr_left fun d hd => ite_isUnchanged hpairs hd,
    (sidesAddUp_of_pairByKey hpairs).after, List.sum_map_ite] at hcounted
  rw [hcounted, List.sum_map_zero, zero_add, add_comm]
  exact List.sum_map_filter_add_sum_map_filter_not
    (·.StaysSame x.wastefulVirtuals) Wasteful.wastedSize y.wastefulVirtuals

theorem sum_wastedSize_eq_zero {items : List WastefulVirtual} (h : ∀ v ∈ items, v.wastedSize ≠ 0)
    : (items.map Wasteful.wastedSize).sum = 0 ↔ items = [] := by
  constructor
  . intro hsum
    rw [List.sum_eq_zero_iff_forall_eq_nat] at hsum
    apply List.eq_nil_iff_forall_not_mem.2
    intro v hv
    exact h v hv (hsum _ (List.mem_map_of_mem hv))
  . rintro rfl
    rfl

theorem Comparison.remaining_unless_same {before after : Snapshot} {options : AnalysisOptions}
    {similarity : Similarity} {k l m : Monitor}
    (hx : ((before.analyze options similarity).run k).1 = .ok x)
    (hy : ((after.analyze options similarity).run l).1 = .ok y)
    (hc : (compareSnapshots before after options similarity m).1 = .ok c)
    : (WasteDiffTotals.ofComparison c).duplicateDataRemaining
          = (WasteTotals.ofAnalysis y).duplicateDataWasted
        ∧ (WasteDiffTotals.ofComparison c).foldabilityRemaining
          = (WasteTotals.ofAnalysis y).foldabilityWasted
        ∧ Quantity.wrappingAdd (WasteDiffTotals.ofComparison c).wastefulVirtualRemaining
            ((y.wastefulVirtuals.filter (·.StaysSame x.wastefulVirtuals)).map
              Wasteful.wastedSize).sum
          = (WasteTotals.ofAnalysis y).wastefulVirtualWasted
        ∧ ((WasteTotals.exact y).wastefulVirtualWasted < wordLimit →
          (WasteDiffTotals.ofComparison c).wastefulVirtualRemaining
              + ((y.wastefulVirtuals.filter (·.StaysSame x.wastefulVirtuals)).map
                Wasteful.wastedSize).sum
            = (WasteTotals.ofAnalysis y).wastefulVirtualWasted
          ∧ ((WasteDiffTotals.ofComparison c).wastefulVirtualRemaining
              = (WasteTotals.ofAnalysis y).wastefulVirtualWasted
            ↔ ∀ v ∈ y.wastefulVirtuals, ¬v.StaysSame x.wastefulVirtuals)) := by
  have hpairs := pairs_of_result (result_of_compareSnapshots hc hx hy)
  have hmakes := Snapshot.makes_of_result_analyze (Pass.result_of_run_eq_ok hy)
  have hvirtuals := hpairs.sum_remaining_wastefulVirtuals
  have hwastes : ∀ v ∈ y.wastefulVirtuals.filter (·.StaysSame x.wastefulVirtuals),
      v.wastedSize ≠ 0 := by
    intro v hv
    exact WastefulVirtual.wastes_of_mem_find hmakes.wastefulVirtuals (List.mem_of_mem_filter hv)
  rw [WasteDiffTotals.ofComparison_eq, WasteTotals.ofAnalysis_eq]
  unfold WasteDiffTotals.wrapped WasteTotals.wrapped WasteDiffTotals.exact WasteTotals.exact
  dsimp only
  refine ⟨?_, ?_, ?_, ?_⟩
  . rw [hpairs.sidesAddUp_duplicateData.sum_wastedSizeRemaining]
  . rw [hpairs.sidesAddUp_foldability.sum_wastedSizeRemaining]
  . rw [Quantity.wrappingAdd, Quantity.wrap_wrap_add, hvirtuals]
  . intro hlt
    rw [Quantity.wrap_of_lt hlt, Quantity.wrap_of_lt (by omega)]
    refine ⟨hvirtuals, ?_⟩
    rw [← hvirtuals, left_eq_add, sum_wastedSize_eq_zero hwastes, List.filter_eq_nil_iff]
    simp only [decide_eq_true_eq]

theorem Comparison.remaining_unless_same_builds
    : ∃ x y c, ((earlierBuild.analyze {} byteSimilarity).run (.start none)).1 = .ok x
        ∧ ((laterBuild.analyze {} byteSimilarity).run (.start none)).1 = .ok y
        ∧ (compareSnapshots earlierBuild laterBuild {} byteSimilarity (.start none)).1 = .ok c
        ∧ (WasteDiffTotals.ofComparison c).duplicateDataRemaining
          = (WasteTotals.ofAnalysis y).duplicateDataWasted
        ∧ ((y.wastefulVirtuals.filter (·.StaysSame x.wastefulVirtuals)).map
            Wasteful.wastedSize).sum = 16
        ∧ ∃ v ∈ y.wastefulVirtuals, v.StaysSame x.wastefulVirtuals := by
  obtain ⟨x, y, c, hx, hy, hc, _, hrange, _, _, hwasted, hremaining⟩ := exists_results_builds
  have hlt : (WasteTotals.exact y).wastefulVirtualWasted < wordLimit :=
    lt_of_le_of_lt (Nat.le_add_left _ _) (hrange.totalWasted.trans_lt (by decide))
  have hcompare := compareSnapshots_of_result (m := .start none) rfl rfl hx hy hc
  rw [← Pass.run_start_none] at hx hy
  have ⟨hdata, _, _, hfits⟩ := remaining_unless_same hx hy hcompare
  have ⟨hsame, hall⟩ := hfits hlt
  rw [hwasted, hremaining] at hsame hall
  refine ⟨x, y, c, hx, hy, hcompare, hdata, by omega, ?_⟩
  by_contra hnone
  have hequal := hall.2 fun v hv hv' => hnone ⟨v, hv, hv'⟩
  omega

theorem Comparison.remaining_lacks_same_type
    : ∃ y c, ((laterBuild.analyze {} byteSimilarity).run (.start none)).1 = .ok y
        ∧ (compareSnapshots earlierBuild laterBuild {} byteSimilarity (.start none)).1 = .ok c
        ∧ (WasteDiffTotals.ofComparison c).wastefulVirtualRemaining = 32
        ∧ (WasteTotals.ofAnalysis y).wastefulVirtualWasted = 48 := by
  -- One of the two types that waste slots is the same in both builds.
  obtain ⟨x, y, c, hx, hy, hc, _, _, _, _, hwasted, hremaining⟩ := exists_results_builds
  have hcompare := compareSnapshots_of_result (m := .start none) rfl rfl hx hy hc
  rw [← Pass.run_start_none] at hy
  exact ⟨y, c, hy, hcompare, hremaining, hwasted⟩

end Footprint
