import Footprint.Proofs.Balance
import Footprint.Report.Consistency

namespace Footprint

section Containers

variable {α : Type} [Container α] {containers : List α} {c : α} {s : Snapshot}
  {kind : ContainerKind}

theorem size_lt_wordLimit (c : α) : Sized.size c < wordLimit := by
  show Quantity.saturatingTotal _ < wordLimit
  rw [Quantity.saturatingTotal_eq_min]
  unfold wordLimit
  omega

theorem checkContainers_eq_nil (h : ∀ c ∈ containers, Balanced c)
    : checkContainers containers = [] := by
  unfold checkContainers
  rw [List.filterMap_eq_nil_iff]
  intro c hc
  have hsections := (h c hc).sections
  have hgroups := (h c hc).coffGroups
  have hlt := size_lt_wordLimit c
  apply if_pos
  constructor
  . exact Quantity.total?_eq_some.2 ⟨hsections.trans_lt hlt, hsections⟩
  . exact Quantity.total?_eq_some.2 ⟨hgroups.trans_lt hlt, hgroups⟩

theorem checkPlaces_eq_nil (h : s.check = .ok ())
    (hsum : ∀ p, (containers.map fun c => (Container.contributions c).extentAt p).sum
      = amountAt p ((s.recordsOf kind).flatMap (·.postings)))
    : checkPlaces kind (s.sections.map BinarySection.ofRecord) containers = [] := by
  unfold checkPlaces
  rw [List.filterMap_eq_nil_iff, sectionPlaces_ofRecord]
  intro ⟨p, size⟩ hmem
  have hcontributed : (containers.map fun c => (Container.contributions c).sizeAt p).sum
      = sizeIn p (s.recordsOf kind) := by
    unfold Contributions.sizeAt
    rw [sum_size_extentAt, hsum p, size_amountAt_records]
  have htotal := Quantity.total?_eq_some.2 ⟨hcontributed.trans_lt ?_, hcontributed⟩
  . dsimp only
    rw [htotal, Option.any_some, decide_eq_true (sizeIn_recordsOf_le h kind (mem_placesOf.1 hmem))]
    rfl
  . rw [← size_amountAt_records]
    exact (fits_recordsOf h kind p).1

end Containers

namespace Report

variable {s : Snapshot} {a : Analysis} {options : AnalysisOptions} {similarity : Similarity}

theorem inconsistencies_ofAnalysis (h : s.check = .ok ())
    (ha : (s.analyze options similarity).result = .ok a)
    : (ofAnalysis a).inconsistencies = [] := by
  have hbalanced := isBalanced_of_result_analyze h ha
  have ⟨hcompilands, _, hsourceFiles⟩ := containers_of_result_analyze ha
  have hsections := (Snapshot.makes_of_result_analyze ha).sections
  unfold ofAnalysis inconsistencies
  dsimp only
  rw [checkContainers_eq_nil hbalanced.libs, checkContainers_eq_nil hbalanced.compilands,
    checkContainers_eq_nil hbalanced.sourceFiles, hsections,
    checkPlaces_eq_nil h (sum_extentAt_compilands hcompilands),
    checkPlaces_eq_nil h (sum_extentAt_sourceFiles hsourceFiles)]
  rfl

theorem validate_of_consistent {r : Report} (h : r.inconsistencies = []) (limit : Nat)
    : r.validate none = .ok ()
      ∧ r.validate (some limit)
        = if Quantity.toSigned limit < r.wastedSize then
            .error (.wasteExceedsLimit r.wastedSize limit)
          else .ok () := by
  unfold validate
  rw [h]
  exact ⟨rfl, rfl⟩

theorem single_fails_only_on_waste {m : Monitor} (h : s.check = .ok ())
    (ha : ((s.analyze options similarity).run m).1 = .ok a)
    : (ofAnalysis a).inconsistencies = []
      ∧ (ofAnalysis a).validate none = .ok ()
      ∧ ∀ limit, (ofAnalysis a).validate (some limit)
        = if Quantity.toSigned limit < (ofAnalysis a).wastedSize then
            .error (.wasteExceedsLimit (ofAnalysis a).wastedSize limit)
          else .ok () := by
  have hconsistent := inconsistencies_ofAnalysis h (Pass.result_of_run_eq_ok ha)
  refine ⟨hconsistent, (validate_of_consistent hconsistent 0).1, ?_⟩
  intro limit
  exact (validate_of_consistent hconsistent limit).2

theorem single_fails_only_on_waste_sharedSections
    : sharedSections.check = .ok ()
      ∧ ∃ a, ((sharedSections.analyze {} byteSimilarity).run (.start none)).1 = .ok a
        ∧ (ofAnalysis a).inconsistencies = []
        ∧ (ofAnalysis a).validate none = .ok ()
        ∧ (ofAnalysis a).validate (some 0) = .ok () := by
  have hanalysis : ∃ a, ((sharedSections.analyze {} byteSimilarity).run (.start none)).1 = .ok a
      ∧ (ofAnalysis a).wastedSize = 0 := ⟨_, rfl, rfl⟩
  obtain ⟨a, ha, hwasted⟩ := hanalysis
  have ⟨hconsistent, hnone, hlimit⟩ := single_fails_only_on_waste rfl ha
  refine ⟨rfl, a, ha, hconsistent, hnone, ?_⟩
  rw [hlimit, hwasted]
  rfl

end Report
end Footprint
