import Footprint.Proofs.Report.Single
import Footprint.Proofs.Waste.DuplicateClasses

namespace Footprint
namespace Report

variable {s : Snapshot} {a : Analysis} {options : AnalysisOptions} {similarity : Similarity}
  {m : Monitor} {r : Report} {fault : ReportFault} {limit : Nat}

def FailsAt (r : Report) (limit : Nat) : Prop :=
  ∃ fault, r.validate (some limit) = .error fault

theorem toSigned_lt_toSigned {x y : Nat}
    : Quantity.toSigned x < Quantity.toSigned y ↔ x < y ∧ x < maxSigned := by
  unfold Quantity.toSigned
  omega

theorem validate_eq_error (h : r.inconsistencies = [])
    : r.validate (some limit) = .error fault
        ↔ Quantity.toSigned limit < r.wastedSize
          ∧ fault = .wasteExceedsLimit r.wastedSize limit := by
  rw [(validate_of_consistent h limit).2]
  split_ifs with hlt
  . rw [Except.error.injEq, eq_comm]
    exact (and_iff_right hlt).symm
  . simp [hlt]

theorem failsAt_iff (h : r.inconsistencies = [])
    : r.FailsAt limit ↔ Quantity.toSigned limit < r.wastedSize := by
  unfold FailsAt
  simp only [validate_eq_error h, exists_and_left, exists_eq, and_true]

theorem fails_at_limits_below_waste (h : s.check = .ok ())
    (ha : ((s.analyze options similarity).run m).1 = .ok a) (limit : Nat)
    : ((ofAnalysis a).FailsAt limit
        ↔ limit < (WasteTotals.ofAnalysis a).totalWasted ∧ limit < maxSigned)
      ∧ (((ofAnalysis a).FailsAt limit ↔ limit < (WasteTotals.ofAnalysis a).totalWasted)
        ↔ ¬(maxSigned ≤ limit ∧ limit < (WasteTotals.ofAnalysis a).totalWasted))
      ∧ ∀ fault, (ofAnalysis a).validate (some limit) = .error fault
        → fault = .wasteExceedsLimit
          (Quantity.toSigned (WasteTotals.ofAnalysis a).totalWasted) limit := by
  have hconsistent := inconsistencies_ofAnalysis h (Pass.result_of_run_eq_ok ha)
  have hfails : (ofAnalysis a).FailsAt limit
      ↔ limit < (WasteTotals.ofAnalysis a).totalWasted ∧ limit < maxSigned :=
    (failsAt_iff hconsistent).trans toSigned_lt_toSigned
  refine ⟨hfails, ?_, ?_⟩
  . rw [hfails]
    omega
  . intro fault hfault
    exact ((validate_eq_error hconsistent).1 hfault).2

def hugeTables : Snapshot where
  staticData := [
    { name := "table", rva := 0, size := 2 ^ 62 + 1, compiland := "a.obj", bytes := [1] },
    { name := "table", rva := 16, size := 2 ^ 62 + 1, compiland := "b.obj", bytes := [1] },
    { name := "table", rva := 32, size := 2 ^ 62 + 1, compiland := "c.obj", bytes := [1] }]

def hugeCopies : Copies where
  symbol := { name := "table", rva := 0, size := 2 ^ 62 + 1, compiland := "a.obj", bytes := [1] }
  referencedIn := ["a.obj", "b.obj", "c.obj"]

def hugeItem : DuplicateData where
  symbol := hugeCopies.symbol
  referencedIn := hugeCopies.referencedIn
  totalSize := (2 ^ 62 + 1) * 3
  totalVirtualSize := 0
  wastedSize := (2 ^ 62 + 1) * 2

theorem finish_hugeCopies : hugeCopies.finish = .ok hugeItem := by
  apply DuplicateData.finish_of_sorted
  . decide
  . decide
  . decide

theorem exists_analysis_hugeTables
    : ∃ a, ((hugeTables.analyze {} byteSimilarity).run (.start none)).1 = .ok a
        ∧ (WasteTotals.ofAnalysis a).totalWasted = 2 ^ 63 + 2 := by
  have hbuilt : DuplicateData.built hugeTables = [hugeCopies] := by decide
  have hfinish : (DuplicateData.built hugeTables).mapM Copies.finish = .ok [hugeItem] := by
    rw [hbuilt, List.mapM_cons, finish_hugeCopies]
    rfl
  rw [Pass.run_start_none, Snapshot.result_analyze, DuplicateData.result_find_of_finish hfinish]
  exact ⟨_, rfl, rfl⟩

theorem fails_at_limits_below_waste_hugeTables
    : hugeTables.check = .ok ()
      ∧ ∃ a, ((hugeTables.analyze {} byteSimilarity).run (.start none)).1 = .ok a
        ∧ (ofAnalysis a).FailsAt (2 ^ 63 - 2)
        ∧ ¬(ofAnalysis a).FailsAt (2 ^ 63 - 1) := by
  obtain ⟨a, ha, hwasted⟩ := exists_analysis_hugeTables
  have hbelow := (fails_at_limits_below_waste rfl ha (2 ^ 63 - 2)).1
  have hlargest := (fails_at_limits_below_waste rfl ha (2 ^ 63 - 1)).1
  rw [hwasted] at hbelow hlargest
  exact ⟨rfl, a, ha, hbelow.2 (by decide), fun hfails => absurd (hlargest.1 hfails) (by decide)⟩

theorem passes_below_waste_hugeTables
    : hugeTables.check = .ok ()
      ∧ ∃ a, ((hugeTables.analyze {} byteSimilarity).run (.start none)).1 = .ok a
        ∧ (WasteTotals.ofAnalysis a).totalWasted = 2 ^ 63 + 2
        ∧ 2 ^ 63 - 1 < (WasteTotals.ofAnalysis a).totalWasted
        ∧ (WasteTotals.ofAnalysis a).totalWasted < 2 ^ 64
        ∧ (ofAnalysis a).validate (some (2 ^ 63 - 1)) = .ok () := by
  obtain ⟨a, ha, hwasted⟩ := exists_analysis_hugeTables
  have hconsistent : (ofAnalysis a).inconsistencies = [] :=
    inconsistencies_ofAnalysis rfl (Pass.result_of_run_eq_ok ha)
  refine ⟨rfl, a, ha, hwasted, by omega, by omega, ?_⟩
  rw [(validate_of_consistent hconsistent _).2]
  -- Both the waste and its limit are cut down to the largest signed amount.
  show (if _ < Quantity.toSigned (WasteTotals.ofAnalysis a).totalWasted then _ else _) = _
  rw [hwasted]
  rfl

end Report
end Footprint
