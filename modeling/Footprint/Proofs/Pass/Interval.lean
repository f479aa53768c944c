import Footprint.Proofs.Pass.Sweep
import Mathlib.Order.Bounds.Defs

namespace Footprint

structure Underway (task : Task) (total earlier later : Nat) (reports : List Progress) : Prop where
  alike : ∀ p ∈ reports, ∃ processed,
    p = .underway task processed total ∧ earlier < processed ∧ processed ≤ later
  increasing : (reports.map Progress.current).Pairwise (· < ·)

namespace Underway

variable {task : Task} {total earlier between later : Nat} {reports more : List Progress}

theorem nil (task : Task) (total earlier later : Nat) : Underway task total earlier later [] where
  alike _ hp := absurd hp List.not_mem_nil
  increasing := List.Pairwise.nil

theorem current_bounds (h : Underway task total earlier later reports) {p : Progress}
    (hp : p ∈ reports)
    : earlier < p.current ∧ p.current ≤ later := by
  have ⟨processed, heq, hbounds⟩ := h.alike p hp
  rw [heq]
  exact hbounds

theorem append (h : Underway task total earlier between reports)
    (hmore : Underway task total between later more) (hearlier : earlier ≤ between)
    (hlater : between ≤ later)
    : Underway task total earlier later (reports ++ more) where
  alike := by
    intro p hp
    rcases List.mem_append.1 hp with hp | hp
    . have ⟨processed, heq, hlt, hle⟩ := h.alike p hp
      exact ⟨processed, heq, hlt, by omega⟩
    . have ⟨processed, heq, hlt, hle⟩ := hmore.alike p hp
      exact ⟨processed, heq, by omega, hle⟩
  increasing := by
    rw [List.map_append, List.pairwise_append]
    refine ⟨h.increasing, hmore.increasing, ?_⟩
    intro c hc d hd
    have ⟨p, hp, hcurrent⟩ := List.mem_map.1 hc
    have ⟨q, hq, hcurrent'⟩ := List.mem_map.1 hd
    have hle := (h.current_bounds hp).2
    have hlt := (hmore.current_bounds hq).1
    omega

end Underway

namespace Sweep

section CatchUp

def catchUp (nextReport processed : Nat) : Nat :=
  if nextReport ≤ processed then catchUp (nextReport + reportInterval) processed else nextReport
termination_by processed + 1 - nextReport
decreasing_by
  unfold reportInterval
  omega

theorem followingReport_eq_catchUp {nextReport processed : Nat} (h : nextReport ≤ processed)
    : followingReport nextReport processed = catchUp nextReport processed := by
  induction nextReport using catchUp.induct processed with
  | case1 nextReport _ ih =>
    unfold catchUp
    rw [if_pos h]
    by_cases hfurther : nextReport + reportInterval ≤ processed
    . rw [← ih hfurther]
      unfold followingReport reportInterval at *
      omega
    . unfold catchUp
      rw [if_neg hfurther]
      unfold followingReport reportInterval at *
      omega
  | case2 nextReport hnot => exact absurd h hnot

theorem catchUp_having (task : Task) (total : Nat) {processed later : Nat} (h : processed ≤ later)
    : catchUp (having task total processed).nextReport later
        = (having task total later).nextReport := by
  unfold having
  dsimp only
  by_cases hdue : reportInterval * (processed / reportInterval + 1) ≤ later
  . rw [← followingReport_eq_catchUp hdue, followingReport_eq hdue]
  . unfold catchUp
    rw [if_neg hdue]
    rw [due_iff, Nat.not_lt] at hdue
    rw [Nat.le_antisymm (Nat.div_le_div_right h) hdue]

end CatchUp

section Advance

variable (task : Task) (total processed count : Nat)

theorem isLeast_nextReport
    : IsLeast { next | reportInterval ∣ next ∧ processed < next }
        (having task total processed).nextReport := by
  unfold having reportInterval
  dsimp only
  constructor
  . refine ⟨Nat.dvd_mul_right _ _, ?_⟩
    omega
  . intro next ⟨hdvd, hlt⟩
    have ⟨k, hk⟩ := hdvd
    rw [hk] at hlt ⊢
    apply Nat.mul_le_mul_left
    omega

theorem reportsOf_advance
    : reportsOf ((having task total processed).advance count).steps
        = if processed / reportInterval < (processed + count) / reportInterval then
            [.underway task (processed + count) total]
          else [] := by
  rw [steps_advance]
  unfold reportsOf reportsBetween
  rw [List.filterMap_cons_none rfl]
  split
  . rfl
  . rfl

theorem underway_advance
    : Underway task total processed (processed + count)
        (reportsOf ((having task total processed).advance count).steps) := by
  rw [reportsOf_advance]
  split
  . next hmore =>
    have hlt : processed < processed + count := by
      by_contra hnot
      exact absurd (Nat.div_le_div_right (Nat.not_lt.1 hnot)) (Nat.not_le.2 hmore)
    constructor
    . intro p hp
      rw [List.mem_singleton] at hp
      exact ⟨processed + count, hp, hlt, Nat.le_refl _⟩
    . apply List.pairwise_singleton
  . apply Underway.nil

end Advance

section Calls

variable {task : Task} {total processed count : Nat} {counts : List Nat} {m : Monitor}

def advanceAll (task : Task) (total : Nat) (counts : List Nat) : Pass Sweep :=
  counts.foldlM advance { task, total }

structure KeepsInterval (earlier later : Sweep) (sent : List Progress) : Prop where
  due : IsLeast { next | reportInterval ∣ next ∧ later.processed < next } later.nextReport
  caughtUp : later.nextReport = catchUp earlier.nextReport later.processed
  near : later.nextReport ≤ later.processed + reportInterval
  reports : sent =
    if earlier.processed / reportInterval < later.processed / reportInterval then
      [.underway later.task later.processed later.total]
    else []
  crossed : sent ≠ []
    ↔ ∃ multiple, reportInterval ∣ multiple
      ∧ earlier.processed < multiple ∧ multiple ≤ later.processed
  atMostOne : sent.length ≤ 1

theorem exists_multiple_iff {earlier later : Nat}
    : (∃ multiple, reportInterval ∣ multiple ∧ earlier < multiple ∧ multiple ≤ later)
        ↔ earlier / reportInterval < later / reportInterval := by
  unfold reportInterval
  constructor
  . intro ⟨multiple, hdvd, hlt, hle⟩
    omega
  . intro hlt
    exact ⟨100 * (later / 100), Nat.dvd_mul_right _ _, by omega, by omega⟩

theorem keepsInterval_advance (task : Task) (total processed count : Nat)
    : KeepsInterval (having task total processed) (having task total (processed + count))
        (reportsOf ((having task total processed).advance count).steps) where
  due := by apply isLeast_nextReport
  caughtUp := by
    symm
    apply catchUp_having
    apply Nat.le_add_right
  near := by
    unfold having reportInterval
    dsimp only
    omega
  reports := by apply reportsOf_advance
  crossed := by
    rw [reportsOf_advance, exists_multiple_iff]
    unfold having
    simp
  atMostOne := by
    rw [reportsOf_advance]
    split
    . apply Nat.le_refl
    . apply Nat.zero_le

theorem result_foldlM_advance
    : (counts.foldlM advance (having task total processed)).result
        = .ok (having task total (processed + counts.sum)) := by
  induction counts generalizing processed with
  | nil => rfl
  | cons count counts ih =>
    rw [List.foldlM_cons, Pass.result_bind_of_ok (result_advance task total processed count), ih,
      List.sum_cons, Nat.add_assoc]

theorem underway_foldlM_advance
    : Underway task total processed (processed + counts.sum)
        (reportsOf (counts.foldlM advance (having task total processed)).steps) := by
  induction counts generalizing processed with
  | nil => apply Underway.nil
  | cons count counts ih =>
    rw [List.foldlM_cons, Pass.steps_bind_of_ok (result_advance task total processed count),
      reportsOf_append, List.sum_cons, ← Nat.add_assoc]
    apply (underway_advance task total processed count).append ih
    . apply Nat.le_add_right
    . apply Nat.le_add_right

theorem advanceAll_append_singleton
    : advanceAll task total (counts ++ [count])
        = advanceAll task total counts >>= fun sweep => sweep.advance count := by
  unfold advanceAll
  rw [List.foldlM_append]
  simp only [List.foldlM_cons, List.foldlM_nil, bind_pure]

theorem steps_advanceAll_append_singleton
    : (advanceAll task total (counts ++ [count])).steps
        = (advanceAll task total counts).steps
          ++ ((having task total (0 + counts.sum)).advance count).steps := by
  rw [advanceAll_append_singleton]
  apply Pass.steps_bind_of_ok
  exact result_foldlM_advance

theorem reports_once_each_interval (task : Task) (total : Nat) (counts : List Nat) (count : Nat)
    {m : Monitor}
    (hnever : ((advanceAll task total (counts ++ [count])).run m).2.canceled = false)
    : ∃ earlier later sent,
        ((advanceAll task total counts).run m).1 = .ok earlier
          ∧ ((advanceAll task total (counts ++ [count])).run m).1 = .ok later
          ∧ earlier.processed = counts.sum ∧ later.processed = counts.sum + count
          ∧ ((advanceAll task total (counts ++ [count])).run m).2.reports
            = ((advanceAll task total counts).run m).2.reports ++ sent
          ∧ KeepsInterval earlier later sent
          ∧ ∃ all,
            ((advanceAll task total (counts ++ [count])).run m).2.reports = m.reports ++ all
              ∧ (all.map Progress.current).Pairwise (· < ·) := by
  have hcalls := @result_foldlM_advance task total 0 counts
  have hall := @result_foldlM_advance task total 0 (counts ++ [count])
  have hunderway := @underway_foldlM_advance task total 0 (counts ++ [count])
  have hfollow : (m.follow (advanceAll task total (counts ++ [count])).steps).1 = true := by
    apply Monitor.follow_of_not_canceled
    rw [← Pass.run_snd]
    exact hnever
  have hbefore : (m.follow (advanceAll task total counts).steps).1 = true := by
    -- The last call comes at the end, so up to there the calls come to their end as well.
    rw [steps_advanceAll_append_singleton] at hfollow
    exact Monitor.follow_of_follow_append hfollow
  rw [List.sum_append, List.sum_singleton, ← Nat.add_assoc] at hall
  refine ⟨_, _, _, ?_, ?_, ?_, ?_, ?_, keepsInterval_advance task total (0 + counts.sum) count,
    _, ?_, hunderway.increasing⟩
  . rw [Pass.run_fst, if_pos hbefore]
    exact hcalls
  . rw [Pass.run_fst, if_pos hfollow]
    exact hall
  . apply Nat.zero_add
  . show 0 + counts.sum + count = counts.sum + count
    omega
  . rw [Pass.reports_run hfollow, Pass.reports_run hbefore, steps_advanceAll_append_singleton,
      reportsOf_append, List.append_assoc]
  . apply Pass.reports_run hfollow

theorem reports_once_each_interval_jumps
    : ((advanceAll .compilands 1000 [99, 1, 0, 350]).run (.start none)).1
          = .ok { task := .compilands, total := 1000, processed := 450, nextReport := 500 }
      ∧ ((advanceAll .compilands 1000 [99, 1, 0, 350]).run (.start none)).2.reports
          = [.underway .compilands 100 1000, .underway .compilands 450 1000]
      ∧ ∃ earlier later sent,
        ((advanceAll .compilands 1000 [99, 1, 0]).run (.start none)).1 = .ok earlier
          ∧ ((advanceAll .compilands 1000 [99, 1, 0, 350]).run (.start none)).1 = .ok later
          ∧ KeepsInterval earlier later sent := by
  refine ⟨rfl, rfl, ?_⟩
  have ⟨earlier, later, sent, hearlier, hlater, _, _, _, hkeeps, _⟩ :=
    reports_once_each_interval .compilands 1000 [99, 1, 0] 350
      (Pass.not_canceled_of_start_none _)
  exact ⟨earlier, later, sent, hearlier, hlater, hkeeps⟩

end Calls

end Sweep
end Footprint
