import Footprint.Proofs.Conservation
import Footprint.Proofs.Waste.DuplicateData
import Footprint.Proofs.Waste.Foldability
import Footprint.Proofs.Waste.Slots

/-!
This module contains how an analysis of a snapshot that has passed its checks ends. Nothing but the
virtual sizes of copies can keep it from its end, because the checks bound all other sums, and in a
build that checks its arithmetic the products of the search for wasteful virtual functions.
-/

namespace Footprint
namespace Snapshot

variable {s : Snapshot} {options : AnalysisOptions} {similarity : Similarity} {m : Monitor}

def CopiesOverflow (s : Snapshot) : Prop :=
  ∃ c, DuplicateData.Among c s ∧ wordLimit ≤ c.symbol.virtualSize * c.referencedIn.length

structure StepsSucceed (s : Snapshot) : Prop where
  containers : ∃ compilands libs sourceFiles,
    s.buildCompilands.result = .ok compilands
    ∧ (buildLibs compilands).result = .ok libs
    ∧ s.buildSourceFiles.result = .ok sourceFiles
    ∧ checkFit .compiland (s.sections.map BinarySection.ofRecord) compilands = .ok ()
    ∧ checkFit .sourceFile (s.sections.map BinarySection.ofRecord) sourceFiles = .ok ()
  built : ∀ c, c ∈ DuplicateData.built s ↔ DuplicateData.Among c s
  copies : ∀ c ∈ DuplicateData.built s, c.symbol.size * c.referencedIn.length < wordLimit
  code : ∀ group ∈ Foldability.templates s,
    ∃ size, Foldability.codeSize group.2 (Foldability.uniqueAmong group.2) = .ok size

theorem exists_containers (h : s.check = .ok ())
    : ∃ compilands libs sourceFiles,
        s.buildCompilands.result = .ok compilands
        ∧ (buildLibs compilands).result = .ok libs
        ∧ s.buildSourceFiles.result = .ok sourceFiles
        ∧ checkFit .compiland (s.sections.map BinarySection.ofRecord) compilands = .ok ()
        ∧ checkFit .sourceFile (s.sections.map BinarySection.ofRecord) sourceFiles = .ok () := by
  have ⟨compilands, hcompilands⟩ := exists_buildCompilands h
  have ⟨libs, hlibs, _⟩ := exists_buildLibs h hcompilands
  have ⟨sourceFiles, hsourceFiles⟩ := exists_buildSourceFiles h
  refine ⟨compilands, libs, sourceFiles, hcompilands, hlibs, hsourceFiles, ?_, ?_⟩
  . exact checkFit_eq_ok h (sum_extentAt_compilands hcompilands)
  . exact checkFit_eq_ok h (sum_extentAt_sourceFiles hsourceFiles)

theorem exists_codeSize_of_mem_templates (h : s.check = .ok ())
    {group : String × List TemplatedFunction} (hgroup : group ∈ Foldability.templates s)
    : ∃ size, Foldability.codeSize group.2 (Foldability.uniqueAmong group.2) = .ok size := by
  have ⟨_, _, _, _, ⟨_, _, hdata⟩, hcode⟩ := check_eq_ok.1 h
  have hsublist := Foldability.sublist_of_mem_templates hgroup
  have hle : (group.2.map (·.size)).sum ≤ (s.templatedFunctions.map (·.size)).sum := by
    apply List.Sublist.sum_le_sum
    . exact hsublist.map _
    . simp
  apply Foldability.exists_codeSize
  . exact fun f hf => hcode f (hsublist.subset hf)
  . omega

theorem stepsSucceed (h : s.check = .ok ()) : s.StepsSucceed where
  containers := exists_containers h
  built _ := DuplicateData.mem_built
  copies c hc := by
    have ⟨_, _, _, _, ⟨_, _, hdata⟩, _⟩ := check_eq_ok.1 h
    have hle := DuplicateData.size_mul_length_le hc
    omega
  code _ hgroup := exists_codeSize_of_mem_templates h hgroup

theorem exists_result_analyze (h : s.StepsSucceed) (options : AnalysisOptions)
    (similarity : Similarity)
    : ∃ make : List DuplicateData → List WastefulVirtual → Analysis,
        (s.analyze options similarity).result
            = (DuplicateData.find s).result.bind (fun duplicateData =>
              (WastefulVirtual.find options.excludeComTypes s).result.map (make duplicateData))
          ∧ (s.analyzeChecked options similarity).run.result
            = (DuplicateData.find s).result.bind fun duplicateData =>
              (WastefulVirtual.findChecked options.excludeComTypes s).run.result.map
                (Option.map (make duplicateData)) := by
  have ⟨compilands, libs, sourceFiles, hcompilands, hlibs, hsourceFiles, hfits, hfit⟩ :=
    h.containers
  have ⟨found, hfound⟩ := Foldability.exists_find similarity h.code
  refine ⟨fun duplicateData items =>
    s.assemble compilands libs sourceFiles duplicateData found.items items, ?_, ?_⟩
  . rw [result_analyze]
    dsimp only
    rw [hcompilands, Except.ok_bind, hlibs, Except.ok_bind, hsourceFiles, Except.ok_bind, hfits,
      Except.ok_bind, hfit, Except.ok_bind, hfound]
    cases (DuplicateData.find s).result with
    | error e => rfl
    | ok duplicateData => cases (WastefulVirtual.find options.excludeComTypes s).result <;> rfl
  -- Either build runs the same steps, so those that succeed can be taken away in both.
  . unfold analyzeChecked analyzeBy
    rw [Pass.result_run_lift_bind_of_ok (Pass.result_log _ _),
      Pass.result_run_lift_bind_of_ok Pass.result_checkpoint]
    dsimp only
    rw [Pass.result_run_lift_bind_of_ok hcompilands, Pass.result_run_lift_bind_of_ok hlibs,
      Pass.result_run_lift_bind_of_ok hsourceFiles, Pass.result_run_lift_bind_of_ok hfits,
      Pass.result_run_lift_bind_of_ok hfit, Pass.result_run_lift_bind]
    congr 1
    funext duplicateData
    rw [Pass.result_run_lift_bind_of_ok hfound, Pass.result_run_bind]
    show (WastefulVirtual.findChecked options.excludeComTypes s).run.result.bind _ = _
    cases (WastefulVirtual.findChecked options.excludeComTypes s).run.result with
    | error e => rfl
    | ok items? => cases items? <;> rfl

theorem exists_find_iff (h : s.StepsSucceed)
    : (∃ items, (DuplicateData.find s).result = .ok items) ↔ ¬s.CopiesOverflow := by
  rw [DuplicateData.exists_find]
  constructor
  . intro hfinish ⟨c, hc, hle⟩
    have ⟨item, hitem⟩ := hfinish c ((h.built c).2 hc)
    rw [DuplicateData.finish_of_le hle] at hitem
    cases hitem
  . intro hno c hc
    apply DuplicateData.finish_of_lt (h.copies c hc)
    by_contra hle
    exact hno ⟨c, (h.built c).1 hc, Nat.not_lt.1 hle⟩

theorem find_eq_error_sanity (h : s.StepsSucceed) {e : AnalysisError}
    (hfind : (DuplicateData.find s).result = .error e)
    : ∃ fault, e = .sanity fault := by
  have ⟨c, hc, hfinish⟩ := DuplicateData.find_eq_error hfind
  by_cases hlt : c.symbol.virtualSize * c.referencedIn.length < wordLimit
  . have ⟨item, hitem⟩ := DuplicateData.finish_of_lt (h.copies c hc) hlt
    rw [hitem] at hfinish
    cases hfinish
  . rw [DuplicateData.finish_of_le (Nat.not_lt.1 hlt)] at hfinish
    cases hfinish
    exact ⟨_, rfl⟩

theorem analyze_fails_only_on_copies (h : s.check = .ok ())
    (hnever : ((s.analyze options similarity).run m).2.canceled = false)
    : ((∃ a, ((s.analyze options similarity).run m).1 = .ok a) ↔ ¬s.CopiesOverflow)
      ∧ ((∃ fault, ((s.analyze options similarity).run m).1 = .error (.sanity fault))
        ↔ s.CopiesOverflow)
      ∧ s.StepsSucceed
      ∧ (s.CopiesOverflow ∨ WastefulVirtual.SlotsInRange s
        → (s.analyzeChecked options similarity).run.result
          = ((s.analyze options similarity).run m).1.map some)
      ∧ (¬s.CopiesOverflow → ¬WastefulVirtual.SlotsInRange s
        → (s.analyzeChecked options similarity).run.result = .ok none) := by
  have hsteps := stepsSucceed h
  have hnames := (check_eq_ok.1 h).2.1 .userDefinedType
  have ⟨make, hmake, hchecked⟩ := exists_result_analyze hsteps options similarity
  have ⟨items, hitems⟩ := WastefulVirtual.exists_find options.excludeComTypes s
  rw [WastefulVirtual.result_run_findChecked _ hnames, hitems] at hchecked
  rw [Pass.run_of_not_canceled hnever, hmake, hchecked, hitems,
    ← not_iff_not (b := s.CopiesOverflow), ← exists_find_iff hsteps]
  cases hfind : (DuplicateData.find s).result with
  | ok duplicateData =>
    have hnone : ¬s.CopiesOverflow := (exists_find_iff hsteps).1 ⟨_, hfind⟩
    refine ⟨by simp [Except.bind, Except.map], by simp [Except.bind, Except.map], hsteps, ?_, ?_⟩
    . intro hor
      rw [if_pos (hor.resolve_left hnone)]
      rfl
    . intro _ hnot
      rw [if_neg hnot]
      rfl
  | error e =>
    obtain ⟨fault, rfl⟩ := find_eq_error_sanity hsteps hfind
    refine ⟨by simp [Except.bind], by simp [Except.bind], hsteps, fun _ => rfl, ?_⟩
    intro ⟨_, hno⟩
    cases hno

def twoCopies (virtualSize : Nat) : Snapshot where
  staticData := [
    { name := "table", rva := 16, size := 4, virtualSize, compiland := "a.obj", bytes := [1, 2] },
    { name := "table", rva := 32, size := 4, virtualSize, compiland := "b.obj", bytes := [1, 2] }]

theorem analyze_twoCopies
    : (∃ a, (((twoCopies 8).analyze {} byteSimilarity).run (.start none)).1 = .ok a)
      ∧ ∃ fault, (((twoCopies (wordLimit / 2)).analyze {} byteSimilarity).run (.start none)).1
        = .error (.sanity fault) := by
  constructor
  . apply (analyze_fails_only_on_copies rfl (Pass.not_canceled_of_start_none _)).1.2
    intro ⟨c, hc, hle⟩
    have hall : ∀ c ∈ DuplicateData.built (twoCopies 8),
        c.symbol.virtualSize * c.referencedIn.length < wordLimit := by decide
    exact Nat.not_le.2 (hall c (DuplicateData.mem_built.2 hc)) hle
  . apply (analyze_fails_only_on_copies rfl (Pass.not_canceled_of_start_none _)).2.1.2
    have hsome : ∃ c ∈ DuplicateData.built (twoCopies (wordLimit / 2)),
        wordLimit ≤ c.symbol.virtualSize * c.referencedIn.length := by decide
    obtain ⟨c, hc, hle⟩ := hsome
    exact ⟨c, DuplicateData.mem_built.1 hc, hle⟩

end Snapshot
end Footprint
