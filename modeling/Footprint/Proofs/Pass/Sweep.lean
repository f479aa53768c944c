import Footprint.Proofs.Pass.Checkpoint
import Mathlib.Algebra.GroupWithZero.Nat

namespace Footprint
namespace Sweep

variable {α σ : Type}

def having (task : Task) (total processed : Nat) : Sweep where
  task := task
  total := total
  processed := processed
  nextReport := reportInterval * (processed / reportInterval + 1)

def reportsBetween (earlier later : Nat) : Nat :=
  if earlier / reportInterval < later / reportInterval then 1 else 0

def reportsUponLast (counts : List Nat) : Nat :=
  reportsBetween counts.dropLast.sum counts.sum

theorem due_iff (processed later : Nat)
    : reportInterval * (processed / reportInterval + 1) ≤ later
        ↔ processed / reportInterval < later / reportInterval := by
  rw [Nat.mul_comm, ← Nat.le_div_iff_mul_le (by decide)]
  rfl

theorem followingReport_eq {processed later : Nat}
    (h : reportInterval * (processed / reportInterval + 1) ≤ later)
    : followingReport (reportInterval * (processed / reportInterval + 1)) later
        = reportInterval * (later / reportInterval + 1) := by
  unfold followingReport reportInterval at *
  omega

theorem result_advance (task : Task) (total processed count : Nat)
    : ((having task total processed).advance count).result
        = .ok (having task total (processed + count)) := by
  unfold advance having
  rw [Pass.result_bind_of_ok Pass.result_checkpoint]
  dsimp only
  split
  . next hdue =>
    rw [Pass.result_bind_of_ok (Pass.result_report _), Pass.result_pure, followingReport_eq hdue]
  . next hnot =>
    rw [due_iff, Nat.not_lt] at hnot
    have hsame : processed / reportInterval = (processed + count) / reportInterval :=
      Nat.le_antisymm (Nat.div_le_div_right (Nat.le_add_right _ _)) hnot
    rw [Pass.result_pure, hsame]

theorem steps_advance (task : Task) (total processed count : Nat)
    : ((having task total processed).advance count).steps
        = .checkpoint :: List.replicate (reportsBetween processed (processed + count))
            (.event (.progress (.underway task (processed + count) total))) := by
  unfold advance having reportsBetween
  rw [Pass.steps_bind_of_ok Pass.result_checkpoint]
  dsimp only
  split
  . next hdue =>
    rw [if_pos ((due_iff _ _).1 hdue)]
    rfl
  . next hnot =>
    rw [if_neg (mt (due_iff _ _).2 hnot)]
    rfl

theorem reportsLate_advance (task : Task) (total processed count : Nat)
    : ((having task total processed).advance count).ReportsLate
        (reportsBetween processed (processed + count)) := by
  refine ⟨[], _, steps_advance task total processed count, ?_, ?_⟩
  . intro hmem
    cases List.eq_of_mem_replicate hmem
  . unfold reportsOf
    rw [List.filterMap_replicate]
    exact List.length_replicate

theorem reportsBetween_le (earlier later : Nat) : reportsBetween earlier later ≤ 1 := by
  unfold reportsBetween
  split
  . exact Nat.le_refl 1
  . exact Nat.zero_le 1

theorem reportsUponLast_ones (items : List α)
    : reportsUponLast (items.map fun _ => 1) = reportsBetween (items.length - 1) items.length := by
  unfold reportsUponLast
  rw [List.map_const', List.dropLast_replicate, List.sum_replicate_nat, List.sum_replicate_nat,
    Nat.mul_one, Nat.mul_one]

section Steps

variable {visit : Sweep → α → Pass Sweep} {make : σ → α → σ}

theorem steps_goThrough (sweep : Sweep) (made : σ) (items : List α)
    : (goThrough visit (fun made item => .ofExcept (.ok (make made item))) sweep made items).steps
        = (items.foldlM visit sweep).steps := by
  induction items generalizing sweep made with
  | nil => rfl
  | cons item items ih =>
    unfold goThrough
    rw [List.foldlM_cons]
    cases hvisit : (visit sweep item).result with
    | error e => rw [Pass.steps_bind_of_error hvisit, Pass.steps_bind_of_error hvisit]
    | ok next =>
      rw [Pass.steps_bind_of_ok hvisit, Pass.steps_bind_of_ok hvisit,
        Pass.steps_bind_of_ok (Pass.result_ofExcept _), ih next (make made item)]
      rfl

theorem decidedBy_run (task : Task) (total : Nat) (start : σ) (found : σ → Nat) (items : List α)
    : (run task total visit (fun made item => .ok (make made item)) start found items).DecidedBy
        (items.foldlM visit { task, total }).steps := by
  rw [run_eq_bind, ← @steps_goThrough _ _ visit make { task, total } start items]
  -- What comes after the items is the report of the end, which is no checkpoint.
  apply (Pass.decidedBy_steps _).bind
  intro through hmem
  cases List.mem_singleton.1 hmem

end Steps

section Run

variable {task : Task} {total processed : Nat} {count : α → Nat}
  {take : σ → α → Except AnalysisError σ} {start made last : σ} {found : σ → Nat} {items : List α}

theorem reportsLate_goThrough (hne : items ≠ []) (hlast : items.foldlM take made = .ok last)
    : (goThrough (fun sweep item => sweep.advance (count item))
        (fun made item => .ofExcept (take made item)) (having task total processed) made
        items).ReportsLate
          (reportsBetween (processed + (items.map count).dropLast.sum)
            (processed + (items.map count).sum)) := by
  induction items generalizing processed made with
  | nil => exact absurd rfl hne
  | cons item items ih =>
    rw [List.foldlM_cons] at hlast
    obtain ⟨next, hnext, hlast⟩ := Except.bind_eq_ok.1 hlast
    have hadvance := result_advance task total processed (count item)
    unfold goThrough
    cases items with
    | nil =>
      refine (reportsLate_advance task total processed (count item)).bind hadvance ?_
        List.not_mem_nil rfl
      exact Pass.steps_bind_of_ok hnext
    | cons second items =>
      apply Pass.ReportsLate.of_next hadvance
      apply Pass.ReportsLate.of_next ((Pass.result_ofExcept _).trans hnext)
      have h := @ih (processed + count item) next (List.cons_ne_nil second items) hlast
      simp only [List.map_cons, List.dropLast_cons_cons, List.sum_cons, Nat.add_assoc] at h ⊢
      exact h

theorem reportsLate_run (hne : items ≠ [])
    (hlast : (run task total (fun sweep item => sweep.advance (count item)) take start found
      items).result = .ok last)
    : (run task total (fun sweep item => sweep.advance (count item)) take start found
        items).ReportsLate (reportsUponLast (items.map count) + 1) := by
  have hvisit (sweep : Sweep) (item : α) := exists_result_advance sweep (count item)
  rw [result_run take hvisit] at hlast
  have hresult := result_goThrough take hvisit (having task total 0) start items
  have hlate := @reportsLate_goThrough _ _ task total 0 count take start last items hne hlast
  rw [Nat.zero_add, Nat.zero_add] at hlate
  cases hthrough : (goThrough (fun sweep item => sweep.advance (count item))
      (fun made item => .ofExcept (take made item)) (having task total 0) start items).result with
  | error e =>
    rw [hthrough, hlast] at hresult
    cases hresult
  | ok through =>
    let finished : Step := .event (.progress
      (.finished through.1.task through.1.processed through.1.total (found through.2)))
    have hnot : .checkpoint ∉ [finished] := by simp [finished]
    exact hlate.bind hthrough rfl hnot rfl

end Run

end Sweep
end Footprint
