import Footprint.Proofs.Pass

/-!
This module contains what becomes of a run that is canceled on one of its reports. It keeps in step
with the full run until a checkpoint stops it, so its reports are the first ones of the full run,
and it comes to what the full run comes to unless it has been stopped.
-/

namespace Footprint

variable {α : Type}

def Event.report? : Event → Option Progress
  | progress p => some p
  | log _ => none

def Step.report? : Step → Option Progress
  | checkpoint => none
  | event e => e.report?

def reportsOf (steps : List Step) : List Progress :=
  steps.filterMap Step.report?

theorem reportsOf_append (steps later : List Step)
    : reportsOf (steps ++ later) = reportsOf steps ++ reportsOf later := by
  apply List.filterMap_append

namespace Monitor

variable {m u : Monitor} {n : Nat}

theorem reportsOf_event (e : Event) (steps : List Step)
    : reportsOf (.event e :: steps) = e.report?.toList ++ reportsOf steps := by
  cases e <;> rfl

theorem reports_receive (m : Monitor) (e : Event)
    : (m.receive e).reports = m.reports ++ e.report?.toList := by
  cases e <;> simp [receive, reports, events, Event.report?]

theorem exists_reports_follow (m : Monitor) (steps : List Step)
    : ∃ seen, seen <+: reportsOf steps
        ∧ (m.follow steps).2.reports = m.reports ++ seen
        ∧ ((m.follow steps).1 = true → seen = reportsOf steps) := by
  induction steps generalizing m with
  | nil => exact ⟨[], List.nil_prefix, (List.append_nil _).symm, fun _ => rfl⟩
  | cons step steps ih =>
    cases step with
    | checkpoint =>
      unfold follow
      split
      . exact ⟨[], List.nil_prefix, (List.append_nil _).symm, fun h => absurd h Bool.false_ne_true⟩
      . exact ih m
    | event e =>
      obtain ⟨seen, hprefix, hreports, hall⟩ := ih (m.receive e)
      rw [reportsOf_event]
      refine ⟨e.report?.toList ++ seen, ?_, ?_, ?_⟩
      . exact (List.prefix_append_right_inj _).2 hprefix
      . rw [← List.append_assoc, ← reports_receive]
        exact hreports
      . intro hend
        rw [hall hend]

structure CancelsOn (m : Monitor) (n : Nat) : Prop where
  cancelAt : m.cancelAt = some n
  reportCount : m.reportCount = m.reports.length
  canceled : m.canceled = true ↔ n ≤ m.reportCount

theorem cancelsOn_start (n : Nat) : CancelsOn (start (some n)) n where
  cancelAt := rfl
  reportCount := rfl
  canceled := by simp [start]

theorem CancelsOn.receive (h : CancelsOn m n) (e : Event) : CancelsOn (m.receive e) n where
  cancelAt := by cases e <;> exact h.cancelAt
  reportCount := by
    rw [reports_receive]
    cases e with
    | progress p => simp [Monitor.receive, Event.report?, h.reportCount]
    | log line => simp [Monitor.receive, Event.report?, h.reportCount]
  canceled := by
    cases e with
    | progress p =>
      simp only [Monitor.receive, h.cancelAt, Bool.or_eq_true, decide_eq_true_eq, Option.some.injEq,
        h.canceled]
      omega
    | log line => exact h.canceled

theorem CancelsOn.follow (h : CancelsOn m n) (steps : List Step)
    : CancelsOn (m.follow steps).2 n := by
  induction steps generalizing m with
  | nil => exact h
  | cons step steps ih =>
    cases step with
    | checkpoint =>
      unfold Monitor.follow
      split
      . exact h
      . exact ih h
    | event e => exact ih (h.receive e)

structure InStep (n : Nat) (m u : Monitor) : Prop where
  cancelsOn : CancelsOn m n
  never : u.cancelAt = none
  notCanceled : u.canceled = false
  reports : m.reports = u.reports

structure Behind (n : Nat) (m u : Monitor) : Prop where
  cancelsOn : CancelsOn m n
  canceled : m.canceled = true
  reports : m.reports <+: u.reports

theorem inStep_start (n : Nat) : InStep n (start (some n)) (start none) where
  cancelsOn := cancelsOn_start n
  never := rfl
  notCanceled := rfl
  reports := rfl

theorem Behind.le (h : Behind n m u) : n ≤ m.reports.length := by
  rw [← h.cancelsOn.reportCount]
  exact h.cancelsOn.canceled.1 h.canceled

theorem Behind.receive_log (h : Behind n m u) (line : LogLine)
    : Behind n (m.receive (.log line)) u where
  cancelsOn := h.cancelsOn.receive _
  canceled := canceled_receive_of_canceled h.canceled _
  reports := by
    rw [reports_receive]
    simpa [Event.report?] using h.reports

theorem Behind.run (h : Behind n m u) (p : Pass α) : Behind n m (p.run u).2 where
  cancelsOn := h.cancelsOn
  canceled := h.canceled
  reports := by
    obtain ⟨seen, _, hreports, _⟩ := exists_reports_follow u p.steps
    rw [Pass.run_snd, hreports]
    exact h.reports.trans (List.prefix_append _ _)

end Monitor

namespace Pass

open Monitor

variable {m u : Monitor} {n : Nat}

theorem run_fst (p : Pass α) (m : Monitor)
    : (p.run m).1 = if (m.follow p.steps).1 then p.result else .error .canceled := by
  unfold run
  split
  . next hend =>
    rw [hend]
    rfl
  . next hend =>
    rw [hend]
    rfl

theorem run_of_inStep (h : InStep n m u) (p : Pass α)
    : ((p.run m).1 = (p.run u).1 ∧ InStep n (p.run m).2 (p.run u).2)
      ∨ ((p.run m).1 = .error .canceled ∧ Behind n (p.run m).2 (p.run u).2) := by
  have ⟨hnever, hnot⟩ := not_canceled_of_never h.never p
  rw [h.notCanceled] at hnot
  have hresult : (p.run u).1 = p.result := run_of_not_canceled hnot
  rw [run_snd] at hnever hnot
  rw [hresult, run_snd, run_snd, run_fst]
  obtain ⟨all, _, hall, hcomplete⟩ := exists_reports_follow u p.steps
  rw [hcomplete (follow_of_not_canceled hnot), ← h.reports] at hall
  obtain ⟨seen, hprefix, hseen, hend⟩ := exists_reports_follow m p.steps
  have hcancels := h.cancelsOn.follow p.steps
  cases hfollow : (m.follow p.steps).1 with
  | true =>
    left
    refine ⟨rfl, hcancels, hnever, hnot, ?_⟩
    rw [hseen, hall, hend hfollow]
  | false =>
    right
    refine ⟨rfl, hcancels, ?_, ?_⟩
    . by_contra hrunning
      rw [follow_of_not_canceled (Bool.not_eq_true _ ▸ hrunning)] at hfollow
      cases hfollow
    . rw [hseen, hall]
      exact (List.prefix_append_right_inj _).2 hprefix

end Pass

/-- Whether a run is what is left of a full run if it is canceled on a report. -/
structure CutShort (n : Nat) (cut full : Except AnalysisError α × Monitor) : Prop where
  reports : cut.2.reports <+: full.2.reports
  outcome : cut.1 = .error .canceled ∨ cut.1 = full.1
  reached : min n full.2.reports.length ≤ cut.2.reports.length
  unreached : full.2.reports.length < n → cut.1 = full.1

section CutShort

open Monitor

variable {n : Nat} {cut full : Except AnalysisError α × Monitor}

theorem cutShort_of_inStep (houtcome : cut.1 = full.1) (h : InStep n cut.2 full.2)
    : CutShort n cut full where
  reports := h.reports ▸ List.prefix_rfl
  outcome := .inr houtcome
  reached := by
    rw [h.reports]
    exact Nat.min_le_right _ _
  unreached _ := houtcome

theorem cutShort_of_behind (houtcome : cut.1 = .error .canceled ∨ cut.1 = full.1)
    (h : Behind n cut.2 full.2)
    : CutShort n cut full where
  reports := h.reports
  outcome := houtcome
  reached := Nat.le_trans (Nat.min_le_left _ _) h.le
  unreached hlt := absurd (Nat.le_trans h.le h.reports.length_le) (Nat.not_le.2 hlt)

theorem Pass.cutShort_run (p : Pass α) (n : Nat)
    : CutShort n (p.run (.start (some n))) (p.run (.start none)) := by
  rcases p.run_of_inStep (inStep_start n) with ⟨houtcome, h⟩ | ⟨houtcome, h⟩
  . exact cutShort_of_inStep houtcome h
  . exact cutShort_of_behind (.inl houtcome) h

end CutShort

end Footprint
