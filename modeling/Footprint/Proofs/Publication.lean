import Footprint.Proofs.Analysis
import Footprint.Proofs.Pass.Sweep
import Footprint.Proofs.Waste.Foldability
import Footprint.Proofs.Waste.WastefulVirtual

/-!
This module contains which canceled analyses publish a result. No checkpoint comes after the last
reports of an analysis, so canceling it on one of them comes too late. How many these are depends on
where in the search for wasteful virtual functions there is an item left to go through.
-/

namespace Footprint

open Sweep

namespace Hierarchy

variable {types : List UserDefinedType}

theorem reportsLate_load (hne : types ≠ [])
    : (load types).ReportsLate (reportsBetween (types.length - 1) types.length + 1) := by
  have hload := result_load types
  unfold load at hload ⊢
  apply Pass.ReportsLate.of_result hload
  intro bases hbases hload
  obtain ⟨derived, hderived, -⟩ := Pass.result_bind_eq_ok.1 hload
  have hlength : bases.length = types.length := by
    rw [result_mapEach, Except.mapM_eq_ok] at hbases
    exact hbases.length_eq.symm
  have hne' : bases ≠ [] := by
    rw [← List.length_pos_iff, hlength]
    exact List.length_pos_iff.2 hne
  rw [← hlength, ← reportsUponLast_ones bases]
  exact (reportsLate_run hne' hderived).bind_pure hderived _

end Hierarchy

namespace WastefulVirtual

variable {excludeComTypes : Bool} {s : Snapshot}

theorem reportsLate_find_of_candidates
    (hne : (Hierarchy.ofTypes s.userDefinedTypes).candidates ≠ [])
    : (find excludeComTypes s).ReportsLate (reportsBetween
        ((Hierarchy.ofTypes s.userDefinedTypes).candidates.length - 1)
        (Hierarchy.ofTypes s.userDefinedTypes).candidates.length + 1) := by
  obtain ⟨items, hfind⟩ := exists_find excludeComTypes s
  rw [find_eq_bind] at hfind ⊢
  apply Pass.ReportsLate.of_result hfind
  intro _ _ hfind
  apply Pass.ReportsLate.of_result hfind
  intro h hload hfind
  cases hload.symm.trans (Hierarchy.result_load _)
  obtain ⟨kept, hkept, -⟩ := Pass.result_bind_eq_ok.1 hfind
  rw [← reportsUponLast_ones (Hierarchy.ofTypes s.userDefinedTypes).candidates]
  exact (reportsLate_run hne hkept).bind_log hkept _ _ _

theorem reportsLate_find_of_types (hne : s.userDefinedTypes ≠ [])
    (hnone : (Hierarchy.ofTypes s.userDefinedTypes).candidates = [])
    : (find excludeComTypes s).ReportsLate
        (reportsBetween (s.userDefinedTypes.length - 1) s.userDefinedTypes.length + 2) := by
  have hload := Hierarchy.result_load s.userDefinedTypes
  let finished : Step := .event (.progress (.finished .wastefulTypes 0 0 0))
  let line : Step := .event (.log ⟨.debug, s!"Found wasteful virtuals: items={0}"⟩)
  have hnot : .checkpoint ∉ [finished, line] := by simp [finished, line]
  rw [find_eq_bind]
  apply Pass.ReportsLate.of_next (Pass.result_report _)
  refine (Hierarchy.reportsLate_load hne).bind hload ?_ hnot rfl
  rw [hnone]
  rfl

theorem exists_steps_find_of_no_types (hnone : s.userDefinedTypes = [])
    : ∃ line, (find excludeComTypes s).steps = [
        .event (.progress (.begun "Discovering all user-defined types in the binary")),
        .event (.progress (.finished .baseTypes 0 0 0)),
        .event (.progress (.finished .derivedTypes 0 0 0)),
        .event (.progress (.finished .wastefulTypes 0 0 0)),
        .event (.log line)] := by
  rw [find_eq_bind]
  rw [hnone]
  exact ⟨_, rfl⟩

end WastefulVirtual

namespace Foldability

theorem reportsLate_find {similarity : Similarity} {s : Snapshot} {found : Findings}
    (h : (find similarity s).result = .ok found)
    : (find similarity s).ReportsLate (reportsUponLast ((templates s).map (·.2.length)) + 1) := by
  unfold find at h ⊢
  apply Pass.ReportsLate.of_result h
  intro _ _ h
  by_cases hne : templates s = []
  . -- Without a template the checkpoint before the task is the last one.
    let finished : Step := .event (.progress
      (.finished .foldability 0 s.templatedFunctions.length 0))
    let line : Step := .event (.log ⟨.debug, s!"Found template foldability: items={0}"⟩)
    rw [hne]
    exact ⟨[], [finished, line], rfl, by simp [finished, line], rfl⟩
  . apply Pass.ReportsLate.of_result h
    intro _ _ h
    obtain ⟨found, hfound, -⟩ := Pass.result_bind_eq_ok.1 h
    exact (reportsLate_run hne hfound).bind_log hfound _ _ _

end Foldability

namespace Snapshot

/--
How many reports an analysis sends after its last checkpoint: the one upon the last item that a task
goes through, if there is one, and those from the end of that task on.
-/
def lateReports (s : Snapshot) : Nat :=
  let types := s.userDefinedTypes.length
  let candidates := (Hierarchy.ofTypes s.userDefinedTypes).candidates.length
  if candidates ≠ 0 then
    reportsBetween (candidates - 1) candidates + 1
  else if types ≠ 0 then
    reportsBetween (types - 1) types + 2
  else
    reportsUponLast ((Foldability.templates s).map (·.2.length)) + 5

variable {s : Snapshot} {options : AnalysisOptions} {similarity : Similarity}

theorem reportsLate_searches {found : Foldability.Findings}
    (hfound : (Foldability.find similarity s).result = .ok found) (excludeComTypes : Bool)
    (make : Foldability.Findings → List WastefulVirtual → Analysis)
    : (do
        let found ← Foldability.find similarity s
        let items ← WastefulVirtual.find excludeComTypes s
        Pass.log .info (completion (make found items))
        return make found items : Pass Analysis).ReportsLate s.lateReports := by
  obtain ⟨items, hitems⟩ := WastefulVirtual.exists_find excludeComTypes s
  unfold lateReports
  dsimp only
  split
  . next hcandidates =>
    apply Pass.ReportsLate.of_next hfound
    have hne := mt List.length_eq_zero_iff.2 hcandidates
    exact (WastefulVirtual.reportsLate_find_of_candidates hne).bind_log hitems _ _ _
  . next hnone =>
    rw [not_not, List.length_eq_zero_iff] at hnone
    split
    . next htypes =>
      apply Pass.ReportsLate.of_next hfound
      have hne := mt List.length_eq_zero_iff.2 htypes
      exact (WastefulVirtual.reportsLate_find_of_types hne hnone).bind_log hitems _ _ _
    . next htypes =>
      -- Without types there is no checkpoint after those of the search for templates.
      rw [not_not, List.length_eq_zero_iff] at htypes
      obtain ⟨line, hsteps⟩ := WastefulVirtual.exists_steps_find_of_no_types htypes
      refine (Foldability.reportsLate_find hfound).bind hfound
        ((Pass.steps_bind_of_ok hitems).trans (congrArg (· ++ _) hsteps)) ?_ rfl
      show Step.checkpoint ∉ [_, _, _, _, _, _]
      simp

theorem reportsLate_analyze {a : Analysis} (h : (s.analyze options similarity).result = .ok a)
    : (s.analyze options similarity).ReportsLate s.lateReports := by
  rw [analyze_eq] at h ⊢
  -- The steps before the last two searches all come before the checkpoints of these.
  iterate 8
    apply Pass.ReportsLate.of_result h
    intro _ _ h
  obtain ⟨found, hfound, -⟩ := Pass.result_bind_eq_ok.1 h
  exact reportsLate_searches hfound _ _

theorem lateReports_bounds (s : Snapshot) : 1 ≤ s.lateReports ∧ s.lateReports ≤ 6 := by
  have hle (earlier later : Nat) := reportsBetween_le earlier later
  have hlast : reportsUponLast ((Foldability.templates s).map (·.2.length)) ≤ 1 := hle _ _
  unfold lateReports
  dsimp only
  split
  . exact ⟨Nat.le_add_left _ _, Nat.le_trans (Nat.add_le_add_right (hle _ _) 1) (by decide)⟩
  . split
    . exact ⟨by omega, Nat.le_trans (Nat.add_le_add_right (hle _ _) 2) (by decide)⟩
    . exact ⟨by omega, Nat.add_le_add_right hlast 5⟩

theorem canceled_analysis_published_iff_late (s : Snapshot) (options : AnalysisOptions)
    (similarity : Similarity) (n : Nat)
    : ((∃ a, ((s.analyze options similarity).run (.start (some n))).1 = .ok a)
        ↔ (∃ a, ((s.analyze options similarity).run (.start none)).1 = .ok a)
          ∧ ((s.analyze options similarity).run (.start none)).2.reports.length
            < n + s.lateReports)
      ∧ 1 ≤ s.lateReports ∧ s.lateReports ≤ 6 := by
  refine ⟨?_, lateReports_bounds s⟩
  rw [Pass.run_start_none, Pass.reports_run_start_none]
  cases h : (s.analyze options similarity).result with
  | ok a =>
    rw [← h]
    exact (reportsLate_analyze h).exists_ok_iff n
  | error e =>
    constructor
    . intro ⟨a, ha⟩
      cases h.symm.trans (Pass.result_of_run_eq_ok ha)
    . intro ⟨⟨a, ha⟩, _⟩
      cases ha

def bareBuild : Snapshot where
  binary := "app.dll"

theorem canceled_analysis_published_bareBuild
    : ((bareBuild.analyze {} byteSimilarity).run (.start (some 6))).2.canceled = true
      ∧ ((bareBuild.analyze {} byteSimilarity).run (.start (some 6))).2.reports.length = 10
      ∧ ∃ a, ((bareBuild.analyze {} byteSimilarity).run (.start (some 6))).1 = .ok a := by
  -- The sixth report is that of the search for templates. No checkpoint comes after it.
  exact ⟨rfl, rfl, _, rfl⟩

end Snapshot

end Footprint
