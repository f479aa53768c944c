import Footprint.Proofs.Cancellation
import Footprint.Proofs.Pass.Course
import Footprint.Proofs.Waste.Foldability
import Footprint.Proofs.Waste.WastefulVirtual

namespace Footprint

open Pass Sweep

section Searches

variable {s : Snapshot} {similarity : Similarity} {excludeComTypes : Bool}

namespace DuplicateData

theorem sum_length_dataClasses (s : Snapshot)
    : Quantity.sum ((dataClasses s).map List.length)
        = s.staticData.countP fun d => d.size ≠ 0 || d.virtualSize ≠ 0 := by
  unfold dataClasses
  rw [Quantity.sum_eq_sum, List.map_map, List.countP_eq_length_filter]
  apply sum_length_classes

theorem performs_find
    : (find s).Performs
        [(.duplicateData, s.staticData.countP fun d => d.size ≠ 0 || d.virtualSize ≠ 0)] := by
  unfold find
  rw [← sum_length_dataClasses]
  apply Performs.bind_silent
  . apply performs_run (counts_advanceEach List.length)
    rw [Quantity.sum_eq_sum]
  . intro items _
    rfl

end DuplicateData

namespace Foldability

theorem performs_find
    : (find similarity s).Performs [(.foldability, s.templatedFunctions.length)] := by
  unfold find
  apply performs_begun_bind
  apply performs_silent_bind
  . rfl
  intro _ _
  apply Performs.bind_silent
  . apply performs_run (counts_advance fun group : String × List TemplatedFunction =>
      group.2.length)
    rw [templates_eq]
    apply sum_length_classes
  . intro found _
    rfl

end Foldability

theorem Hierarchy.performs_load (types : List UserDefinedType)
    : (load types).Performs [(.baseTypes, types.length), (.derivedTypes, types.length)] := by
  unfold load
  apply (performs_mapEach _ _ _).cons
  intro bases hbases
  rw [← length_of_mapEach hbases]
  apply performs_run_one_by_one.bind_silent
  intro derived _
  rfl

theorem WastefulVirtual.performs_find
    : (find excludeComTypes s).Performs [
        (.baseTypes, s.userDefinedTypes.length),
        (.derivedTypes, s.userDefinedTypes.length),
        (.wastefulTypes, (Hierarchy.ofTypes s.userDefinedTypes).candidates.length)] := by
  unfold find
  apply performs_begun_bind
  refine @Performs.bind _ _ _ _ _ [_] (Hierarchy.performs_load _) ?_
  intro h hload
  rw [Hierarchy.result_load] at hload
  cases hload
  apply performs_run_one_by_one.bind_silent
  intro items _
  rfl

end Searches

section Analyses

variable {s : Snapshot} {options : AnalysisOptions} {similarity : Similarity}

theorem performs_buildLibs (compilands : List Compiland)
    : (buildLibs compilands).Performs [(.libs, compilands.length)] := by
  unfold buildLibs
  apply performs_run_one_by_one.bind_silent
  intro libs _
  rfl

def Snapshot.tasks (s : Snapshot) : List (Task × Nat) := [
  (.compilands, s.compilands.length),
  (.libs, s.compilands.length),
  (.sourceFiles, s.sourceFiles.length),
  (.duplicateData, s.staticData.countP fun d => d.size ≠ 0 || d.virtualSize ≠ 0),
  (.foldability, s.templatedFunctions.length),
  (.baseTypes, s.userDefinedTypes.length),
  (.derivedTypes, s.userDefinedTypes.length),
  (.wastefulTypes, (Hierarchy.ofTypes s.userDefinedTypes).candidates.length)]

theorem Snapshot.performs_analyze : (s.analyze options similarity).Performs s.tasks := by
  unfold analyze tasks
  apply performs_silent_bind
  . rfl
  intro _ _
  apply performs_silent_bind
  . rfl
  intro _ _
  apply (performs_mapEach _ _ _).cons
  intro compilands hcompilands
  rw [← length_of_mapEach hcompilands]
  apply (performs_buildLibs compilands).cons
  intro libs _
  apply (performs_mapEach _ _ _).cons
  intro sourceFiles _
  apply performs_silent_bind
  . rfl
  intro _ _
  apply performs_silent_bind
  . rfl
  intro _ _
  apply DuplicateData.performs_find.cons
  intro duplicateData _
  apply Foldability.performs_find.cons
  intro found _
  apply WastefulVirtual.performs_find.bind_silent
  intro wastefulVirtuals _
  rfl

theorem performs_diffContainers {α : Type} [Container α] {task : Task} {before after : List α}
    {diffs : List (ContainerDiff α)}
    (h : (diffContainers task before after).result = .ok diffs)
    : (diffContainers task before after).Performs [(task, diffs.length)] := by
  unfold diffContainers at h ⊢
  apply performs_silent_bind
  . rfl
  intro pairs hpairs
  rw [result_bind_of_ok hpairs] at h
  rw [length_of_mapEach h]
  apply performs_mapEach

def Comparison.tasks (c : Comparison) : List (Task × Nat) := [
  (.libDiffs, c.libs.length),
  (.compilandDiffs, c.compilands.length),
  (.sourceFileDiffs, c.sourceFiles.length)]

theorem Comparison.performs_ofAnalyses {x y : Analysis} {c : Comparison}
    (h : (ofAnalyses x y).result = .ok c)
    : (ofAnalyses x y).Performs c.tasks := by
  have ⟨_, hlibs, hcompilands, hsourceFiles⟩ := result_ofAnalyses h
  unfold ofAnalyses tasks
  iterate 2
    apply performs_silent_bind
    . rfl
    intro _ _
  apply (performs_diffContainers hlibs).cons
  intro _ _
  apply (performs_diffContainers hcompilands).cons
  intro _ _
  apply (performs_diffContainers hsourceFiles).cons
  intro _ _
  -- What comes after the tasks sends no reports.
  iterate 9
    apply performs_silent_bind
    . rfl
    intro _ _
  apply performs_of_silent
  rfl

end Analyses

section Turns

inductive Interleaves {α : Type} : List α → List α → List α → Prop where
  | nil : Interleaves [] [] []
  | left {x : α} {xs ys zs : List α} : Interleaves xs ys zs → Interleaves (x :: xs) ys (x :: zs)
  | right {y : α} {xs ys zs : List α} : Interleaves xs ys zs → Interleaves xs (y :: ys) (y :: zs)

namespace Interleaves

variable {α : Type}

theorem nil_left (ys : List α) : Interleaves [] ys ys := by
  induction ys with
  | nil => exact .nil
  | cons y ys ih => exact .right ih

theorem append (xs ys : List α) : Interleaves xs ys (xs ++ ys) := by
  induction xs with
  | nil => apply nil_left
  | cons x xs ih => exact .left ih

theorem left_append {xs ys zs : List α} (h : Interleaves xs ys zs) (ws : List α)
    : Interleaves (ws ++ xs) ys (ws ++ zs) := by
  induction ws with
  | nil => exact h
  | cons w ws ih => exact .left ih

theorem right_append {xs ys zs : List α} (h : Interleaves xs ys zs) (ws : List α)
    : Interleaves xs (ws ++ ys) (ws ++ zs) := by
  induction ws with
  | nil => exact h
  | cons w ws ih => exact .right ih

end Interleaves

namespace Monitor

variable {m : Monitor} {first second : Option (List Step)}

theorem exists_reports_turn {left : Option (List Step)} {rest : List Step}
    (h : (m.turn left).1 = some rest)
    : ∃ steps sent, left = some steps ∧ (m.turn left).2.reports = m.reports ++ sent
        ∧ reportsOf steps = sent ++ reportsOf rest := by
  unfold turn at h ⊢
  split at h
  . next steps =>
    split at h
    . cases h
    . next hnot =>
      cases h
      rw [if_neg hnot]
      exact ⟨_, [], rfl, (List.append_nil _).symm, rfl⟩
  . next e steps =>
    cases h
    exact ⟨_, e.report?.toList, rfl, reports_receive m e, reportsOf_event e _⟩
  . exact ⟨rest, [], h, (List.append_nil _).symm, rfl⟩

theorem exists_reports_followTurns {turns : List Side}
    (hfirst : (m.followTurns first second turns).1 = true)
    (hsecond : (m.followTurns first second turns).2.1 = true)
    : ∃ steps others sent, first = some steps ∧ second = some others
        ∧ (m.followTurns first second turns).2.2.reports = m.reports ++ sent
        ∧ Interleaves (reportsOf steps) (reportsOf others) sent := by
  induction turns generalizing m first second with
  | nil =>
    unfold followTurns at hfirst hsecond ⊢
    dsimp only at hfirst hsecond ⊢
    cases first with
    | none => cases hfirst
    | some steps =>
      cases second with
      | none => cases hsecond
      | some others =>
        -- Once the turns are used up, the first pass goes on to its end and then the second one.
        refine ⟨steps, others, reportsOf steps ++ reportsOf others, rfl, rfl, ?_, .append _ _⟩
        unfold followLeft at hfirst hsecond ⊢
        rw [reports_follow hsecond, reports_follow hfirst, List.append_assoc]
  | cons side turns ih =>
    cases side with
    | before =>
      have ⟨rest, others, later, hrest, hothers, hreports, hinterleaves⟩ := ih hfirst hsecond
      have ⟨steps, sent, hsteps, hsent, hall⟩ := exists_reports_turn hrest
      refine ⟨steps, others, sent ++ later, hsteps, hothers, ?_, ?_⟩
      . rw [← List.append_assoc, ← hsent]
        exact hreports
      . rw [hall]
        exact hinterleaves.left_append sent
    | after =>
      have ⟨steps, rest, later, hsteps, hrest, hreports, hinterleaves⟩ := ih hfirst hsecond
      have ⟨others, sent, hothers, hsent, hall⟩ := exists_reports_turn hrest
      refine ⟨steps, others, sent ++ later, hsteps, hothers, ?_, ?_⟩
      . rw [← List.append_assoc, ← hsent]
        exact hreports
      . rw [hall]
        exact hinterleaves.right_append sent

end Monitor

variable {before after : Snapshot} {options : AnalysisOptions} {similarity : Similarity}
  {m : Monitor} {c : Comparison}

theorem Pass.outcome_eq_ok {α : Type} {p : Pass α} {ended : Bool} {a : α}
    (h : p.outcome ended = .ok a)
    : ended = true ∧ p.result = .ok a := by
  unfold outcome at h
  split at h
  . next hended => exact ⟨hended, h⟩
  . cases h

theorem Comparison.reports_ofOutcomes {first second : Except AnalysisError Analysis}
    (h : (ofOutcomes first second m).1 = .ok c)
    : ∃ x y, first = .ok x ∧ second = .ok y
        ∧ ∃ last, (ofOutcomes first second m).2.reports = m.reports ++ last
          ∧ CompletesAll c.tasks last := by
  unfold ofOutcomes at h ⊢
  split at h
  . next x y =>
    refine ⟨x, y, rfl, rfl, ?_⟩
    exact (performs_ofAnalyses (result_of_run_eq_ok h)).exists_reports_run h
  . cases h
  . cases h

theorem tasks_end_at_totals (options : AnalysisOptions) (similarity : Similarity)
    : (∀ (s : Snapshot) (m : Monitor) (a : Analysis),
        ((s.analyze options similarity).run m).1 = .ok a →
        ∃ sent, ((s.analyze options similarity).run m).2.reports = m.reports ++ sent
          ∧ CompletesAll s.tasks sent)
      ∧ (∀ (before after : Snapshot) (m : Monitor) (c : Comparison),
        (compareSnapshots before after options similarity m).1 = .ok c →
        ∃ sent, (compareSnapshots before after options similarity m).2.reports = m.reports ++ sent
          ∧ CompletesAll (before.tasks ++ after.tasks ++ c.tasks) sent)
      ∧ ∀ (turns : List Side) (before after : Snapshot) (m : Monitor) (c : Comparison),
        (compareInTurns turns before after options similarity m).1 = .ok c →
        ∃ first second both last,
          (compareInTurns turns before after options similarity m).2.reports
              = m.reports ++ both ++ last
            ∧ CompletesAll before.tasks first ∧ CompletesAll after.tasks second
            ∧ Interleaves first second both ∧ CompletesAll c.tasks last := by
  refine ⟨?_, ?_, ?_⟩
  . intro s m a h
    exact Snapshot.performs_analyze.exists_reports_run h
  . intro before after m c h
    rw [compareSnapshots_eq] at h ⊢
    have ⟨x, y, hx, hy, last, hreports, hlast⟩ := Comparison.reports_ofOutcomes h
    have ⟨first, hfirst, htasks⟩ := Snapshot.performs_analyze.exists_reports_run hx
    have ⟨second, hsecond, htasks'⟩ := Snapshot.performs_analyze.exists_reports_run hy
    refine ⟨first ++ second ++ last, ?_, (htasks.append htasks').append hlast⟩
    rw [hreports, hsecond, hfirst, List.append_assoc, List.append_assoc, List.append_assoc]
  . intro turns before after m c h
    unfold compareInTurns at h ⊢
    dsimp only at h ⊢
    have ⟨x, y, hx, hy, last, hreports, hlast⟩ := Comparison.reports_ofOutcomes h
    have ⟨hfirst, hx⟩ := Pass.outcome_eq_ok hx
    have ⟨hsecond, hy⟩ := Pass.outcome_eq_ok hy
    have ⟨steps, others, sent, hsteps, hothers, hsent, hinterleaves⟩ :=
      Monitor.exists_reports_followTurns hfirst hsecond
    cases hsteps
    cases hothers
    refine ⟨_, _, sent, last, ?_, Snapshot.performs_analyze x hx, Snapshot.performs_analyze y hy,
      hinterleaves, hlast⟩
    rw [hreports, hsent]

def recordedTable (times : Nat) : Snapshot where
  staticData := List.replicate times
    { name := "table", rva := 16, size := 4, virtualSize := 4, compiland := "a.obj", bytes := [1] }

set_option maxRecDepth 1000 in
theorem tasks_end_at_totals_recordedTable
    : (∃ sent,
        (((recordedTable 101).analyze {} byteSimilarity).run (.start none)).2.reports = sent
          ∧ CompletesAll (recordedTable 101).tasks sent
          ∧ sent.take 5 = [
              .finished .compilands 0 0 0, .finished .libs 0 0 0, .finished .sourceFiles 0 0 0,
              .underway .duplicateData 100 101, .finished .duplicateData 101 101 0])
      ∧ ∃ first second both last,
        (compareInTurns [.after, .before, .after] (recordedTable 101) (recordedTable 3) {}
            byteSimilarity (.start none)).2.reports = both ++ last
          ∧ CompletesAll (recordedTable 101).tasks first
          ∧ CompletesAll (recordedTable 3).tasks second
          ∧ Interleaves first second both
          ∧ CompletesAll [(.libDiffs, 0), (.compilandDiffs, 0), (.sourceFileDiffs, 0)] last := by
  have ⟨hanalyze, _, hcompare⟩ := tasks_end_at_totals {} byteSimilarity
  constructor
  . have ⟨sent, hsent, htasks⟩ := hanalyze (recordedTable 101) (.start none) _ rfl
    have heq : sent = _ := hsent.symm
    refine ⟨sent, hsent, htasks, ?_⟩
    rw [heq]
    rfl
  . exact hcompare [.after, .before, .after] (recordedTable 101) (recordedTable 3) (.start none)
      _ rfl

end Turns
end Footprint
