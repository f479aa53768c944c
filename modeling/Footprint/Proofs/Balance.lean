import Footprint.Analysis.Compare
import Footprint.Proofs.Comparison
import Footprint.Proofs.Conservation

/-!
This module contains the balance of comparisons. What a container gained is what its sections gained
and what its COFF groups gained, to the byte, as long as its sizes are in the range of signed
amounts. So nothing but a container out of that range can make the sizes of a comparison insane.
-/

namespace Footprint

structure Balanced {α : Type} [Container α] (c : α) : Prop where
  sections : ((Container.contributions c).sections.values.map (·.size)).sum = Sized.size c
  coffGroups : ((Container.contributions c).coffGroups.values.map (·.size)).sum = Sized.size c

/--
Whether a diff of containers tells what was gained to the byte, and so do its sections together and
its COFF groups together.
-/
structure ContainerDiff.IsExact {α : Type} [Container α] (d : ContainerDiff α) : Prop where
  sizeDiff : d.sizeDiff
    = ((d.diff.after?.elim 0 Sized.size : Nat) : Int) - (d.diff.before?.elim 0 Sized.size : Nat)
  sections : d.contributions.sectionTotal = d.sizeDiff
  coffGroups : d.contributions.coffGroupTotal = d.sizeDiff

def Analysis.ExceedsSigned (a : Analysis) : Prop :=
  (∃ l ∈ a.libs, maxSigned < Sized.size l) ∨ (∃ c ∈ a.compilands, maxSigned < Sized.size c)
    ∨ ∃ f ∈ a.sourceFiles, maxSigned < Sized.size f

instance (a : Analysis) : Decidable a.ExceedsSigned :=
  inferInstanceAs (Decidable (_ ∨ _))

section Containers

variable {α : Type} [Container α] {c : α} {before after : List α}

theorem AccountsFor.balanced {records : List ContributionRecord} (h : AccountsFor records c)
    : Balanced c where
  sections := h.sections.symm
  coffGroups := h.coffGroups.symm

theorem signedTotal_pair (before after : Roster String Extent)
    (hbefore : (before.values.map (·.size)).sum ≤ maxSigned)
    (hafter : (after.values.map (·.size)).sum ≤ maxSigned)
    : Quantity.signedTotal ((before.pair after).values.map Diff.sizeDiff)
        = (((after.values.map (·.size)).sum : Nat) : Int) - (before.values.map (·.size)).sum := by
  rw [← Roster.sum_before_pair Extent.size before after] at hbefore ⊢
  rw [← Roster.sum_after_pair Extent.size before after] at hafter ⊢
  exact Quantity.signedTotal_delta _ _ (before.pair after).values hbefore hafter

theorem sum_getD_empty (rosterOf : Contributions → Roster String Extent)
    (hempty : rosterOf .empty = .empty) (side : Option α)
    (h : ∀ c, side = some c
      → ((rosterOf (Container.contributions c)).values.map (·.size)).sum = Sized.size c)
    : ((rosterOf ((side.map Container.contributions).getD .empty)).values.map (·.size)).sum
        = side.elim 0 Sized.size := by
  cases side with
  | none =>
    -- A missing side contributes nothing.
    show ((rosterOf .empty).values.map (·.size)).sum = 0
    rw [hempty]
    rfl
  | some c => exact h c rfl

theorem elim_size_le {side : Option α} (h : ∀ c, side = some c → Sized.size c ≤ maxSigned)
    : side.elim 0 Sized.size ≤ maxSigned := by
  cases side with
  | none => exact Nat.zero_le _
  | some c => exact h c rfl

theorem signedTotal_ofSides (rosterOf : Contributions → Roster String Extent)
    (hempty : rosterOf .empty = .empty) {d : Diff α}
    (hsum : ∀ c ∈ d.sides,
      ((rosterOf (Container.contributions c)).values.map (·.size)).sum = Sized.size c)
    (hsize : ∀ c ∈ d.sides, Sized.size c ≤ maxSigned)
    : Quantity.signedTotal
          (((rosterOf ((d.before?.map Container.contributions).getD .empty)).pair
            (rosterOf ((d.after?.map Container.contributions).getD .empty))).values.map
              Diff.sizeDiff)
        = ((d.after?.elim 0 Sized.size : Nat) : Int) - (d.before?.elim 0 Sized.size : Nat) := by
  have hbefore := sum_getD_empty rosterOf hempty d.before? fun c hc =>
    hsum c (Diff.mem_sides.2 (.inl hc))
  have hafter := sum_getD_empty rosterOf hempty d.after? fun c hc =>
    hsum c (Diff.mem_sides.2 (.inr hc))
  rw [signedTotal_pair, hbefore, hafter]
  . rw [hbefore]
    exact elim_size_le fun c hc => hsize c (Diff.mem_sides.2 (.inl hc))
  . rw [hafter]
    exact elim_size_le fun c hc => hsize c (Diff.mem_sides.2 (.inr hc))

theorem isExact_ofDiff {d : Diff α} (hbalanced : ∀ c ∈ d.sides, Balanced c)
    (hsize : ∀ c ∈ d.sides, Sized.size c ≤ maxSigned)
    : (ContainerDiff.ofDiff d).IsExact := by
  have hdiff : (ContainerDiff.ofDiff d).sizeDiff
      = ((d.after?.elim 0 Sized.size : Nat) : Int) - (d.before?.elim 0 Sized.size : Nat) := by
    apply Quantity.delta_of_le
    . exact elim_size_le fun c hc => hsize c (Diff.mem_sides.2 (.inl hc))
    . exact elim_size_le fun c hc => hsize c (Diff.mem_sides.2 (.inr hc))
  refine ⟨hdiff, ?_, ?_⟩
  . rw [hdiff]
    exact signedTotal_ofSides Contributions.sections rfl (fun c hc => (hbalanced c hc).sections)
      hsize
  . rw [hdiff]
    exact signedTotal_ofSides Contributions.coffGroups rfl (fun c hc => (hbalanced c hc).coffGroups)
      hsize

theorem checkBalance_eq_ok {kind : ContainerKind} {diffs : List (ContainerDiff α)}
    (h : ∀ d ∈ diffs, d.IsExact)
    : checkBalance kind diffs = .ok () := by
  unfold checkBalance
  rw [Except.forM_eq_ok]
  intro d hd
  exact if_pos ⟨(h d hd).sections, (h d hd).coffGroups⟩

theorem exists_diffContainers (task : Task)
    (hbefore : (before.map Entity.name).Nodup) (hafter : (after.map Entity.name).Nodup)
    (hbalanced : ∀ c, c ∈ before ∨ c ∈ after → Balanced c)
    : ∃ diffs, (diffContainers task before after).result = .ok diffs
        ∧ ((∀ c, c ∈ before ∨ c ∈ after → Sized.size c ≤ maxSigned) → ∀ d ∈ diffs, d.IsExact) := by
  have ⟨pairs, hpairs⟩ : ∃ pairs, pairByName before after = .ok pairs :=
    ⟨_, pairByKey_eq_ok.2 ⟨hbefore, hafter, rfl⟩⟩
  refine ⟨_, result_diffContainers.2 ⟨pairs, hpairs, rfl⟩, ?_⟩
  intro hsizes d hd
  obtain ⟨pair, hpair, rfl⟩ := List.mem_map.1 hd
  apply isExact_ofDiff
  . exact fun c hc => hbalanced c (mem_of_mem_sides hpairs hpair hc)
  . exact fun c hc => hsizes c (mem_of_mem_sides hpairs hpair hc)

end Containers

section Analyses

variable {s : Snapshot} {a x y : Analysis} {options : AnalysisOptions} {similarity : Similarity}
  {compilands : List Compiland} {libs : List Lib}

structure Analysis.IsBalanced (a : Analysis) : Prop where
  libNames : (a.libs.map (·.name)).Nodup
  compilandNames : (a.compilands.map (·.name)).Nodup
  sourceFileNames : (a.sourceFiles.map (·.name)).Nodup
  libs : ∀ l ∈ a.libs, Balanced l
  compilands : ∀ c ∈ a.compilands, Balanced c
  sourceFiles : ∀ f ∈ a.sourceFiles, Balanced f

theorem sum_of_members (rosterOf : Contributions → Roster String Extent)
    {total : Roster String Extent} {members : List Compiland}
    (htotal : total.values.sum
      = (members.map fun c => (rosterOf c.contributions).values.sum).sum)
    (h : ∀ c ∈ members, ((rosterOf c.contributions).values.map (·.size)).sum = Sized.size c)
    : (total.values.map (·.size)).sum = (members.map Sized.size).sum := by
  show (total.values.map Extent.size).sum = _
  rw [← Extent.size_sum, htotal, Extent.size_sum, List.map_map]
  congr 1
  apply List.map_congr_left
  intro c hc
  rw [← h c hc]
  exact Extent.size_sum _

theorem balanced_lib (hlibs : LibsOf libs compilands) (hcompilands : ∀ c ∈ compilands, Balanced c)
    {l : Lib} (hl : l ∈ libs)
    (hsize : Sized.size l = ((compilandsIn l.name compilands).map Sized.size).sum)
    : Balanced l := by
  have hmerge := (hlibs.gathers l hl).contributions
  have hmember (c : Compiland) (hc : c ∈ compilandsIn l.name compilands) : Balanced c :=
    hcompilands c (List.mem_of_mem_filter hc)
  have hsections := Contributions.sum_sections_mergeAll hmerge
  have hgroups := Contributions.sum_coffGroups_mergeAll hmerge
  rw [List.map_map] at hsections hgroups
  constructor
  . rw [hsize]
    exact sum_of_members Contributions.sections hsections fun c hc => (hmember c hc).sections
  . rw [hsize]
    exact sum_of_members Contributions.coffGroups hgroups fun c hc => (hmember c hc).coffGroups

theorem isBalanced_of_result_analyze (h : s.check = .ok ())
    (ha : (s.analyze options similarity).result = .ok a)
    : a.IsBalanced := by
  have ⟨hcompilands, _, hsourceFiles⟩ := containers_of_result_analyze ha
  have ⟨hlibsOf, hconserves⟩ := conserves_of_result_analyze h ha
  have hbalanced : ∀ c ∈ a.compilands, Balanced c := by
    intro c hc
    have ⟨r, _, _, _, haccounts⟩ := Except.exists_of_forall₂ hconserves.eachCompiland hc
    exact haccounts.balanced
  constructor
  case libNames => exact hconserves.libNames
  case compilandNames =>
    rw [names_compilands hcompilands]
    exact (Snapshot.check_eq_ok.1 h).2.1 .compiland
  case sourceFileNames =>
    rw [names_sourceFiles hsourceFiles]
    exact (Snapshot.check_eq_ok.1 h).2.1 .sourceFile
  case libs => exact fun l hl => balanced_lib hlibsOf hbalanced hl (hconserves.eachLib l hl)
  case compilands => exact hbalanced
  case sourceFiles =>
    intro f hf
    have ⟨r, _, _, haccounts⟩ := Except.exists_of_forall₂ hconserves.eachSourceFile hf
    exact haccounts.balanced

theorem not_exceedsSigned (h : s.check = .ok ())
    (ha : (s.analyze options similarity).result = .ok a)
    (hsum : (s.sections.map (·.size)).sum ≤ maxSigned)
    : ¬a.ExceedsSigned := by
  have ⟨_, hconserves⟩ := conserves_of_result_analyze h ha
  have hcompilands := hconserves.sum_size_compilands.trans_le (sum_size_recordsOf_le h .compiland)
  have hsourceFiles := hconserves.sum_size_sourceFiles.trans_le
    (sum_size_recordsOf_le h .sourceFile)
  rintro (⟨l, hl, hlarge⟩ | ⟨c, hc, hlarge⟩ | ⟨f, hf, hlarge⟩)
  . have hlib : Sized.size l ≤ (a.compilands.map Sized.size).sum := by
      rw [hconserves.eachLib l hl]
      exact (List.filter_sublist.map _).sum_le_sum fun _ _ => Nat.zero_le _
    omega
  . have hcompiland := List.le_sum_of_mem (List.mem_map_of_mem (f := Sized.size) hc)
    omega
  . have hsourceFile := List.le_sum_of_mem (List.mem_map_of_mem (f := Sized.size) hf)
    omega

end Analyses

namespace Comparison

variable {s t : Snapshot} {x y : Analysis} {c : Comparison} {fault : SanityFault}

theorem diffContainers_ne_sanity {α : Type} [Container α] (task : Task) (before after : List α)
    : (diffContainers task before after).result ≠ .error (.sanity fault) := by
  have hmap (pairs : List (Diff α))
      : pairs.mapM (m := Except AnalysisError) (fun d => .ok (ContainerDiff.ofDiff d))
          = .ok (pairs.map ContainerDiff.ofDiff) := List.mapM_pure
  unfold diffContainers
  rw [ne_eq, Pass.result_bind_eq_error, Pass.result_monadLift]
  simp only [Sweep.result_mapEach, hmap]
  cases pairByName before after <;> simp [pairable]

theorem pairable_ne_sanity {α : Type} (e : Except PairingError α)
    : pairable e ≠ .error (.sanity fault) := by
  cases e <;> simp [pairable]

theorem checkBalance_of_result_ofAnalyses (h : (ofAnalyses x y).result = .error (.sanity fault))
    : ∃ libs compilands sourceFiles,
        (diffContainers .libDiffs x.libs y.libs).result = .ok libs
        ∧ (diffContainers .compilandDiffs x.compilands y.compilands).result = .ok compilands
        ∧ (diffContainers .sourceFileDiffs x.sourceFiles y.sourceFiles).result = .ok sourceFiles
        ∧ (checkBalance .lib libs = .error (.sanity fault)
          ∨ checkBalance .compiland compilands = .error (.sanity fault)
          ∨ checkBalance .sourceFile sourceFiles = .error (.sanity fault)) := by
  -- No other step of a comparison can find sizes to be insane.
  unfold ofAnalyses at h
  simp only [Pass.result_bind_eq_error, Pass.result_monadLift, Pass.result_checkpoint,
    Pass.result_pure, pairable_ne_sanity, diffContainers_ne_sanity, reduceCtorEq, false_or,
    or_false, and_false, exists_false] at h
  obtain ⟨_, _, _, _, libs, hlibs, compilands, hcompilands, sourceFiles, hsourceFiles, h⟩ := h
  refine ⟨libs, compilands, sourceFiles, hlibs, hcompilands, hsourceFiles, ?_⟩
  rcases h with h | ⟨_, _, h | ⟨_, _, h⟩⟩
  . exact .inl h
  . exact .inr (.inl h)
  . exact .inr (.inr h)

structure PairsExactly (x y : Analysis) (libs : List (ContainerDiff Lib))
    (compilands : List (ContainerDiff Compiland)) (sourceFiles : List (ContainerDiff SourceFile))
    : Prop where
  pairsLibs : (diffContainers .libDiffs x.libs y.libs).result = .ok libs
  pairsCompilands : (diffContainers .compilandDiffs x.compilands y.compilands).result
    = .ok compilands
  pairsSourceFiles : (diffContainers .sourceFileDiffs x.sourceFiles y.sourceFiles).result
    = .ok sourceFiles
  exactLibs : ∀ d ∈ libs, d.IsExact
  exactCompilands : ∀ d ∈ compilands, d.IsExact
  exactSourceFiles : ∀ d ∈ sourceFiles, d.IsExact

theorem exists_pairsExactly (hx : x.IsBalanced) (hy : y.IsBalanced) (hxin : ¬x.ExceedsSigned)
    (hyin : ¬y.ExceedsSigned)
    : ∃ libs compilands sourceFiles, PairsExactly x y libs compilands sourceFiles := by
  unfold Analysis.ExceedsSigned at hxin hyin
  push Not at hxin hyin
  have ⟨libs, hlibs, hexactLibs⟩ := exists_diffContainers .libDiffs hx.libNames hy.libNames
    fun l hl => hl.elim (hx.libs l) (hy.libs l)
  have ⟨compilands, hcompilands, hexactCompilands⟩ :=
    exists_diffContainers .compilandDiffs hx.compilandNames hy.compilandNames
      fun c hc => hc.elim (hx.compilands c) (hy.compilands c)
  have ⟨sourceFiles, hsourceFiles, hexactSourceFiles⟩ :=
    exists_diffContainers .sourceFileDiffs hx.sourceFileNames hy.sourceFileNames
      fun f hf => hf.elim (hx.sourceFiles f) (hy.sourceFiles f)
  refine ⟨libs, compilands, sourceFiles, hlibs, hcompilands, hsourceFiles, ?_, ?_, ?_⟩
  . apply hexactLibs
    exact fun l hl => hl.elim (hxin.1 l) (hyin.1 l)
  . apply hexactCompilands
    exact fun c hc => hc.elim (hxin.2.1 c) (hyin.2.1 c)
  . apply hexactSourceFiles
    exact fun f hf => hf.elim (hxin.2.2 f) (hyin.2.2 f)

theorem pairsExactly_of_result (hx : x.IsBalanced) (hy : y.IsBalanced) (hxin : ¬x.ExceedsSigned)
    (hyin : ¬y.ExceedsSigned) (h : (ofAnalyses x y).result = .ok c)
    : PairsExactly x y c.libs c.compilands c.sourceFiles := by
  have ⟨libs, compilands, sourceFiles, hexact⟩ := exists_pairsExactly hx hy hxin hyin
  have hpairs := pairs_of_result h
  have hlibs := Except.ok.inj (hexact.pairsLibs.symm.trans hpairs.libs)
  have hcompilands := Except.ok.inj (hexact.pairsCompilands.symm.trans hpairs.compilands)
  have hsourceFiles := Except.ok.inj (hexact.pairsSourceFiles.symm.trans hpairs.sourceFiles)
  rw [← hlibs, ← hcompilands, ← hsourceFiles]
  exact hexact

theorem result_ofAnalyses_ne_sanity {libs : List (ContainerDiff Lib)}
    {compilands : List (ContainerDiff Compiland)} {sourceFiles : List (ContainerDiff SourceFile)}
    (h : PairsExactly x y libs compilands sourceFiles)
    : (ofAnalyses x y).result ≠ .error (.sanity fault) := by
  intro herror
  obtain ⟨libs, compilands, sourceFiles, hlibs, hcompilands, hsourceFiles, hcheck⟩ :=
    checkBalance_of_result_ofAnalyses herror
  rw [h.pairsLibs] at hlibs
  rw [h.pairsCompilands] at hcompilands
  rw [h.pairsSourceFiles] at hsourceFiles
  cases hlibs
  cases hcompilands
  cases hsourceFiles
  rw [checkBalance_eq_ok h.exactLibs, checkBalance_eq_ok h.exactCompilands,
    checkBalance_eq_ok h.exactSourceFiles] at hcheck
  simp at hcheck

theorem exact_within_signed (hs : s.check = .ok ()) (ht : t.check = .ok ())
    {options₁ options₂ : AnalysisOptions} {similarity₁ similarity₂ : Similarity}
    {k l m : Monitor} (hx : ((s.analyze options₁ similarity₁).run k).1 = .ok x)
    (hy : ((t.analyze options₂ similarity₂).run l).1 = .ok y)
    (hnever : ((ofAnalyses x y).run m).2.canceled = false)
    : ((∃ fault, ((ofAnalyses x y).run m).1 = .error (.sanity fault))
          → x.ExceedsSigned ∨ y.ExceedsSigned)
      ∧ (¬x.ExceedsSigned ∧ ¬y.ExceedsSigned → ∃ libs compilands sourceFiles,
          PairsExactly x y libs compilands sourceFiles
          ∧ ∀ c, ((ofAnalyses x y).run m).1 = .ok c
            → c.libs = libs ∧ c.compilands = compilands ∧ c.sourceFiles = sourceFiles) := by
  have hbalancedx := isBalanced_of_result_analyze hs (Pass.result_of_run_eq_ok hx)
  have hbalancedy := isBalanced_of_result_analyze ht (Pass.result_of_run_eq_ok hy)
  rw [Pass.run_of_not_canceled hnever]
  constructor
  . intro ⟨fault, herror⟩
    by_contra hin
    rw [not_or] at hin
    have ⟨_, _, _, hpairs⟩ := exists_pairsExactly hbalancedx hbalancedy hin.1 hin.2
    exact result_ofAnalyses_ne_sanity hpairs herror
  . intro ⟨hxin, hyin⟩
    have ⟨libs, compilands, sourceFiles, hpairs⟩ :=
      exists_pairsExactly hbalancedx hbalancedy hxin hyin
    refine ⟨libs, compilands, sourceFiles, hpairs, ?_⟩
    intro c hc
    have ⟨_, hlibs, hcompilands, hsourceFiles⟩ := result_ofAnalyses hc
    rw [hpairs.pairsLibs] at hlibs
    rw [hpairs.pairsCompilands] at hcompilands
    rw [hpairs.pairsSourceFiles] at hsourceFiles
    -- The comparison is made of the pairs that exist, and there are no others.
    cases hlibs
    cases hcompilands
    cases hsourceFiles
    exact ⟨rfl, rfl, rfl⟩

def splitCompiland (text data : Nat) : Snapshot where
  sections := [
    { name := ".text", size := text, coffGroups := [{ name := ".text$a", size := text }] },
    { name := ".data", size := data, coffGroups := [{ name := ".data", size := data }] }]
  compilands := [
    { name := "a.obj", lib := "x.lib", contributions := [
      { sectionName := ".text", coffGroup := ".text$a", size := text },
      { sectionName := ".data", coffGroup := ".data", size := data }] }]

theorem exact_within_signed_splitCompiland
    : (∃ x y, (((splitCompiland 4 9).analyze {} byteSimilarity).run (.start none)).1 = .ok x
        ∧ (((splitCompiland 7 2).analyze {} byteSimilarity).run (.start none)).1 = .ok y
        ∧ ∃ libs compilands sourceFiles, PairsExactly x y libs compilands sourceFiles
          ∧ libs.map (fun d => (d.name, d.sizeDiff)) = [("x.lib", -4)])
      ∧ ∃ x y fault,
        (((splitCompiland maxSigned maxSigned).analyze {} byteSimilarity).run (.start none)).1
          = .ok x
        ∧ (((splitCompiland 0 0).analyze {} byteSimilarity).run (.start none)).1 = .ok y
        ∧ ((ofAnalyses x y).run (.start none)).1 = .error (.sanity fault)
        ∧ (x.ExceedsSigned ∨ y.ExceedsSigned) := by
  constructor
  . have hanalyses : ∃ x y,
        (((splitCompiland 4 9).analyze {} byteSimilarity).run (.start none)).1 = .ok x
        ∧ (((splitCompiland 7 2).analyze {} byteSimilarity).run (.start none)).1 = .ok y
        ∧ (¬x.ExceedsSigned ∧ ¬y.ExceedsSigned)
        ∧ (diffContainers .libDiffs x.libs y.libs).result.map
            (·.map fun d => (d.name, d.sizeDiff)) = .ok [("x.lib", -4)] :=
      ⟨_, _, rfl, rfl, by decide, rfl⟩
    obtain ⟨x, y, hx, hy, hin, hlibs⟩ := hanalyses
    have ⟨libs, compilands, sourceFiles, hpairs, _⟩ :=
      (exact_within_signed rfl rfl hx hy (Pass.not_canceled_of_start_none _)).2 hin
    rw [hpairs.pairsLibs] at hlibs
    exact ⟨x, y, hx, hy, libs, compilands, sourceFiles, hpairs, Except.ok.inj hlibs⟩
  . have hanalyses : ∃ x y fault,
        (((splitCompiland maxSigned maxSigned).analyze {} byteSimilarity).run (.start none)).1
          = .ok x
        ∧ (((splitCompiland 0 0).analyze {} byteSimilarity).run (.start none)).1 = .ok y
        ∧ ((ofAnalyses x y).run (.start none)).1 = .error (.sanity fault) :=
      ⟨_, _, _, rfl, rfl, rfl⟩
    obtain ⟨x, y, fault, hx, hy, herror⟩ := hanalyses
    have hexact := exact_within_signed rfl rfl hx hy (Pass.not_canceled_of_start_none _)
    exact ⟨x, y, fault, hx, hy, herror, hexact.1 ⟨fault, herror⟩⟩

end Comparison
end Footprint
