import Footprint.Proofs.Pass.Cancellation

/-!
This module contains what depends on the checkpoints of a pass. A pass that has come to its last
checkpoint without being canceled comes to its end, whatever it reports after it.
-/

namespace Footprint

variable {α β : Type}

namespace Monitor

variable {m : Monitor} {n : Nat}

theorem follow_checkpoint (m : Monitor) (steps : List Step)
    : m.follow (.checkpoint :: steps) = if m.canceled then (false, m) else m.follow steps := by
  rfl

theorem follow_append (m : Monitor) (steps later : List Step)
    : m.follow (steps ++ later)
        = if (m.follow steps).1 then (m.follow steps).2.follow later else m.follow steps := by
  induction steps generalizing m with
  | nil => rfl
  | cons step steps ih =>
    cases step with
    | checkpoint =>
      rw [List.cons_append, follow_checkpoint, follow_checkpoint]
      split
      . rfl
      . exact ih m
    | event e => exact ih (m.receive e)

theorem follow_of_follow_append {steps later : List Step}
    (hend : (m.follow (steps ++ later)).1 = true)
    : (m.follow steps).1 = true := by
  rw [follow_append] at hend
  split at hend
  . next hsteps => exact hsteps
  . exact hend

theorem follow_of_checkpoint_not_mem {steps : List Step} (h : .checkpoint ∉ steps) (m : Monitor)
    : (m.follow steps).1 = true := by
  induction steps generalizing m with
  | nil => rfl
  | cons step steps ih =>
    rw [List.mem_cons, not_or] at h
    cases step with
    | checkpoint => exact absurd rfl h.1
    | event e => exact ih h.2 (m.receive e)

theorem follow_append_of_checkpoint_not_mem {late : List Step} (h : .checkpoint ∉ late)
    (m : Monitor) (early : List Step)
    : (m.follow (early ++ late)).1 = (m.follow early).1 := by
  rw [follow_append]
  split
  . next hend => rw [follow_of_checkpoint_not_mem h, hend]
  . rfl

theorem reports_follow {steps : List Step} (hend : (m.follow steps).1 = true)
    : (m.follow steps).2.reports = m.reports ++ reportsOf steps := by
  have ⟨seen, _, hreports, hall⟩ := exists_reports_follow m steps
  rw [hreports, hall hend]

theorem follow_last_checkpoint {early late : List Step} (h : .checkpoint ∉ late) (m : Monitor)
    : (m.follow (early ++ .checkpoint :: late)).1 = !(m.follow early).2.canceled := by
  rw [follow_append, follow_checkpoint]
  cases hcanceled : (m.follow early).2.canceled with
  | true =>
    rw [if_pos rfl]
    cases hend : (m.follow early).1 with
    | true => rfl
    | false => exact hend
  | false =>
    rw [if_pos (follow_of_not_canceled hcanceled), if_neg Bool.false_ne_true]
    exact follow_of_checkpoint_not_mem h _

theorem CancelsOn.canceled_follow_iff (h : CancelsOn m n) (steps : List Step)
    : (m.follow steps).2.canceled = true ↔ n ≤ m.reports.length + (reportsOf steps).length := by
  have hcancels := h.follow steps
  obtain ⟨seen, hprefix, hreports, hall⟩ := exists_reports_follow m steps
  have hcount : (m.follow steps).2.reportCount = m.reports.length + seen.length := by
    rw [hcancels.reportCount, hreports, List.length_append]
  have hle := hprefix.length_le
  constructor
  . intro hcanceled
    have hn := hcancels.canceled.1 hcanceled
    omega
  . intro hn
    -- Steps that are not canceled come to their end, so all of their reports have been received.
    by_contra hnot
    rw [Bool.not_eq_true] at hnot
    have hseen := hall (follow_of_not_canceled hnot)
    rw [← hseen, ← hcount, ← hcancels.canceled, hnot] at hn
    cases hn

end Monitor

namespace Pass

open Monitor

variable {p : Pass α} {next : α → Pass β} {a : α} {count : Nat}

theorem steps_bind_of_ok (h : p.result = .ok a)
    : (p >>= next).steps = p.steps ++ (next a).steps := by
  show (Pass.bind p next).steps = _
  unfold Pass.bind
  rw [h]

theorem steps_bind_of_error {e : AnalysisError} (h : p.result = .error e)
    : (p >>= next).steps = p.steps := by
  show (Pass.bind p next).steps = _
  unfold Pass.bind
  rw [h]

theorem reports_run {m : Monitor} (hend : (m.follow p.steps).1 = true)
    : (p.run m).2.reports = m.reports ++ reportsOf p.steps := by
  rw [run_snd]
  exact reports_follow hend

theorem follow_of_run_eq_ok {m : Monitor} (h : (p.run m).1 = .ok a)
    : (m.follow p.steps).1 = true := by
  rw [run_fst] at h
  split at h
  . next hend => exact hend
  . cases h

theorem reports_run_start_none (p : Pass α)
    : (p.run (.start none)).2.reports = reportsOf p.steps := by
  have hnot := not_canceled_of_start_none p
  rw [run_snd] at hnot
  rw [reports_run (follow_of_not_canceled hnot)]
  rfl

section EndsAtCheckpoint

def EndsAtCheckpoint (p : Pass α) : Prop :=
  ∀ a, p.result = .ok a → ∃ steps, p.steps = steps ++ [.checkpoint]

theorem endsAtCheckpoint_checkpoint_pure (a : α)
    : EndsAtCheckpoint (do checkpoint; return a) := by
  intro _ _
  exact ⟨[], rfl⟩

theorem EndsAtCheckpoint.bind (p : Pass α) (h : ∀ a, EndsAtCheckpoint (next a))
    : EndsAtCheckpoint (p >>= next) := by
  intro b hb
  obtain ⟨a, ha, hb⟩ := result_bind_eq_ok.1 hb
  obtain ⟨steps, hsteps⟩ := h a b hb
  exact ⟨p.steps ++ steps, by rw [steps_bind_of_ok ha, hsteps, List.append_assoc]⟩

theorem EndsAtCheckpoint.exists_error (h : EndsAtCheckpoint p) {m : Monitor}
    (hcanceled : (p.run m).2.canceled = true)
    : ∃ e, (p.run m).1 = .error e := by
  cases hrun : (p.run m).1 with
  | error e => exact ⟨e, rfl⟩
  | ok a =>
    obtain ⟨steps, hsteps⟩ := h a (result_of_run_eq_ok hrun)
    rw [run_snd, hsteps, follow_append, follow_checkpoint] at hcanceled
    rw [run_fst, hsteps, follow_last_checkpoint List.not_mem_nil] at hrun
    cases hlast : (m.follow steps).2.canceled with
    | true =>
      rw [hlast] at hrun
      cases hrun
    | false =>
      rw [if_pos (follow_of_not_canceled hlast), hlast, if_neg Bool.false_ne_true] at hcanceled
      exact absurd (hlast.symm.trans hcanceled) Bool.false_ne_true

end EndsAtCheckpoint

section DecidedBy

variable {early : List Step}

/-- Whether some first steps of a pass hold all of its checkpoints. -/
def DecidedBy (p : Pass α) (early : List Step) : Prop :=
  ∃ late, p.steps = early ++ late ∧ .checkpoint ∉ late

theorem decidedBy_steps (p : Pass α) : p.DecidedBy p.steps := by
  exact ⟨[], (List.append_nil _).symm, List.not_mem_nil⟩

theorem DecidedBy.of_next (ha : p.result = .ok a) (h : (next a).DecidedBy early)
    : (p >>= next).DecidedBy (p.steps ++ early) := by
  have ⟨late, hsteps, hlate⟩ := h
  refine ⟨late, ?_, hlate⟩
  rw [steps_bind_of_ok ha, hsteps, List.append_assoc]

theorem DecidedBy.bind (h : p.DecidedBy early) (hnext : ∀ a, .checkpoint ∉ (next a).steps)
    : (p >>= next).DecidedBy early := by
  have ⟨late, hsteps, hlate⟩ := h
  cases hresult : p.result with
  | error e => exact ⟨late, by rw [steps_bind_of_error hresult, hsteps], hlate⟩
  | ok a =>
    refine ⟨late ++ (next a).steps, ?_, ?_⟩
    . rw [steps_bind_of_ok hresult, hsteps, List.append_assoc]
    . rw [List.mem_append, not_or]
      exact ⟨hlate, hnext a⟩

theorem DecidedBy.run_fst (h : p.DecidedBy early) (m : Monitor)
    : (p.run m).1 = if (m.follow early).1 then p.result else .error .canceled := by
  have ⟨late, hsteps, hlate⟩ := h
  rw [Pass.run_fst, hsteps, follow_append_of_checkpoint_not_mem hlate]

end DecidedBy

section ReportsLate

def ReportsLate (p : Pass α) (count : Nat) : Prop :=
  ∃ early late, p.steps = early ++ .checkpoint :: late ∧ .checkpoint ∉ late
    ∧ (reportsOf late).length = count

theorem ReportsLate.of_next (ha : p.result = .ok a) (h : (next a).ReportsLate count)
    : (p >>= next).ReportsLate count := by
  obtain ⟨early, late, hsteps, hlate, hcount⟩ := h
  refine ⟨p.steps ++ early, late, ?_, hlate, hcount⟩
  rw [steps_bind_of_ok ha, hsteps, List.append_assoc]

theorem ReportsLate.bind (h : p.ReportsLate count) (ha : p.result = .ok a) {more : List Step}
    {total : Nat} (hmore : (next a).steps = more) (hnot : .checkpoint ∉ more)
    (htotal : count + (reportsOf more).length = total)
    : (p >>= next).ReportsLate total := by
  obtain ⟨early, late, hsteps, hlate, hcount⟩ := h
  refine ⟨early, late ++ more, ?_, ?_, ?_⟩
  . rw [steps_bind_of_ok ha, hsteps, hmore, List.append_assoc, List.cons_append]
  . rw [List.mem_append, not_or]
    exact ⟨hlate, hnot⟩
  . unfold reportsOf at hcount htotal ⊢
    rw [List.filterMap_append, List.length_append, hcount, htotal]

theorem ReportsLate.of_result {b : β} (h : (p >>= next).result = .ok b)
    (hnext : ∀ a, p.result = .ok a → (next a).result = .ok b → (next a).ReportsLate count)
    : (p >>= next).ReportsLate count := by
  obtain ⟨a, ha, hb⟩ := result_bind_eq_ok.1 h
  exact .of_next ha (hnext a ha hb)

theorem ReportsLate.bind_pure (h : p.ReportsLate count) (ha : p.result = .ok a) (make : α → β)
    : (do let a ← p; return make a : Pass β).ReportsLate count := by
  exact h.bind ha rfl List.not_mem_nil rfl

theorem ReportsLate.bind_log (h : p.ReportsLate count) (ha : p.result = .ok a) (level : LogLevel)
    (message : α → String) (make : α → β)
    : (do let a ← p; log level (message a); return make a : Pass β).ReportsLate count := by
  have hnot : .checkpoint ∉ [Step.event (.log ⟨level, message a⟩)] := by simp
  exact h.bind ha rfl hnot rfl

theorem ReportsLate.exists_ok_iff (h : p.ReportsLate count) (n : Nat)
    : (∃ a, (p.run (.start (some n))).1 = .ok a)
        ↔ (∃ a, p.result = .ok a) ∧ (reportsOf p.steps).length < n + count := by
  obtain ⟨early, late, hsteps, hlate, hcount⟩ := h
  have hlength : (reportsOf p.steps).length = (reportsOf early).length + count := by
    unfold reportsOf at hcount ⊢
    rw [hsteps, List.filterMap_append, List.length_append, ← hcount]
    rfl
  have hcanceled := (cancelsOn_start n).canceled_follow_iff early
  have hstart : (Monitor.start (some n)).reports = [] := rfl
  rw [hstart, List.length_nil, Nat.zero_add] at hcanceled
  rw [run_fst, hsteps, follow_last_checkpoint hlate, ← hsteps, hlength]
  cases hearly : ((Monitor.start (some n)).follow early).2.canceled with
  | true =>
    have hn := hcanceled.1 hearly
    simp only [Bool.not_true, Bool.false_eq_true, if_false, reduceCtorEq, exists_false, false_iff,
      not_and]
    omega
  | false =>
    have hn : ¬n ≤ (reportsOf early).length := by
      rw [← hcanceled, hearly]
      exact Bool.false_ne_true
    simp only [Bool.not_false, if_true, iff_self_and]
    omega

end ReportsLate

end Pass
end Footprint
