import Footprint.Analysis.Compare
import Footprint.Proofs.Comparison
import Footprint.Proofs.Pass.Checkpoint

/-!
This module contains what becomes of an analysis and of a comparison that are canceled. Canceling
changes no result, it can only keep it back. A comparison that has been canceled is always kept
back, in whatever turns its two analyses are taken.
-/

namespace Footprint

variable {α β : Type}

namespace Monitor

def turn (m : Monitor) : Option (List Step) → Option (List Step) × Monitor
  | some (.checkpoint :: steps) => if m.canceled then (none, m) else (some steps, m)
  | some (.event e :: steps) => (some steps, m.receive e)
  | left => (left, m)

def followLeft (m : Monitor) : Option (List Step) → Bool × Monitor
  | some steps => m.follow steps
  | none => (false, m)

/-- Follows two passes that take turns, and tells for each whether it came to its end. -/
def followTurns (m : Monitor) (first second : Option (List Step))
    : List Side → Bool × Bool × Monitor
  | [] =>
    let (firstEnded, m) := m.followLeft first
    let (secondEnded, m) := m.followLeft second
    (firstEnded, secondEnded, m)
  | .before :: turns =>
    let (first, m) := m.turn first
    m.followTurns first second turns
  | .after :: turns =>
    let (second, m) := m.turn second
    m.followTurns first second turns

variable {m : Monitor} {n : Nat}

theorem CancelsOn.turn (h : CancelsOn m n) (left : Option (List Step))
    : CancelsOn (m.turn left).2 n := by
  unfold Monitor.turn
  split
  . split
    . exact h
    . exact h
  . exact h.receive _
  . exact h

theorem CancelsOn.followLeft (h : CancelsOn m n) (left : Option (List Step))
    : CancelsOn (m.followLeft left).2 n := by
  cases left with
  | none => exact h
  | some steps => exact h.follow steps

theorem CancelsOn.followTurns (h : CancelsOn m n) (first second : Option (List Step))
    (turns : List Side)
    : CancelsOn (m.followTurns first second turns).2.2 n := by
  induction turns generalizing m first second with
  | nil => exact (h.followLeft first).followLeft second
  | cons side turns ih =>
    cases side with
    | before => exact ih (h.turn first) _ _
    | after => exact ih (h.turn second) _ _

end Monitor

namespace Pass

def outcome (p : Pass α) (ended : Bool) : Except AnalysisError α :=
  if ended then p.result else .error .canceled

end Pass

namespace Comparison

def ofOutcomes (first second : Except AnalysisError Analysis) (m : Monitor)
    : Except AnalysisError Comparison × Monitor :=
  match first, second with
  | .ok first, .ok second => (ofAnalyses first second).run m
  | .error e, _ => (.error e, m)
  | _, .error e => (.error e, m)

theorem endsAtCheckpoint_ofAnalyses (before after : Analysis)
    : (ofAnalyses before after).EndsAtCheckpoint := by
  unfold ofAnalyses
  repeat
    first
    | exact Pass.endsAtCheckpoint_checkpoint_pure _
    | refine Pass.EndsAtCheckpoint.bind _ fun _ => ?_

theorem exists_error_ofOutcomes {first second : Except AnalysisError Analysis} {m : Monitor}
    (hcanceled : (ofOutcomes first second m).2.canceled = true)
    : ∃ e, (ofOutcomes first second m).1 = .error e := by
  unfold ofOutcomes at hcanceled ⊢
  split at hcanceled
  . exact (endsAtCheckpoint_ofAnalyses _ _).exists_error hcanceled
  . exact ⟨_, rfl⟩
  . exact ⟨_, rfl⟩

end Comparison

section Snapshots

open Monitor

variable {before after : Snapshot} {options : AnalysisOptions} {similarity : Similarity}
  {m u : Monitor} {n : Nat}

def compareInTurns (turns : List Side) (before after : Snapshot) (options : AnalysisOptions)
    (similarity : Similarity) (m : Monitor) : Except AnalysisError Comparison × Monitor :=
  let first := before.analyze options similarity
  let second := after.analyze options similarity
  let (firstEnded, secondEnded, m) := m.followTurns (some first.steps) (some second.steps) turns
  Comparison.ofOutcomes (first.outcome firstEnded) (second.outcome secondEnded) m

theorem compareSnapshots_eq
    : compareSnapshots before after options similarity m
        = Comparison.ofOutcomes ((before.analyze options similarity).run m).1
            ((after.analyze options similarity).run
              ((before.analyze options similarity).run m).2).1
            ((after.analyze options similarity).run
              ((before.analyze options similarity).run m).2).2 := by
  rfl

theorem compareInTurns_nil
    : compareInTurns [] before after options similarity m
        = compareSnapshots before after options similarity m := by
  rw [compareSnapshots_eq, Pass.run_fst, Pass.run_fst, Pass.run_snd, Pass.run_snd]
  rfl

theorem run_analyze_of_canceled (hcanceled : m.canceled = true) (s : Snapshot)
    (options : AnalysisOptions) (similarity : Similarity)
    : ∃ line, (s.analyze options similarity).run m = (.error .canceled, m.receive (.log line)) := by
  obtain ⟨line, rest, hsteps⟩ : ∃ line rest, (s.analyze options similarity).steps
      = .event (.log line) :: .checkpoint :: rest := ⟨_, _, rfl⟩
  refine ⟨line, ?_⟩
  have hfollow : m.follow (s.analyze options similarity).steps
      = (false, m.receive (.log line)) := by
    rw [hsteps]
    show (m.receive (.log line)).follow (.checkpoint :: rest) = _
    rw [follow_checkpoint, if_pos (canceled_receive_of_canceled hcanceled _)]
  unfold Pass.run
  rw [hfollow]

theorem cutShort_ofOutcomes_of_inStep (h : InStep n m u)
    (first second : Except AnalysisError Analysis)
    : CutShort n (Comparison.ofOutcomes first second m) (Comparison.ofOutcomes first second u) := by
  cases first with
  | error e => exact cutShort_of_inStep rfl h
  | ok first =>
    cases second with
    | error e => exact cutShort_of_inStep rfl h
    | ok second =>
      rcases Pass.run_of_inStep h (Comparison.ofAnalyses first second)
        with ⟨houtcome, h⟩ | ⟨houtcome, h⟩
      . exact cutShort_of_inStep houtcome h
      . exact cutShort_of_behind (.inl houtcome) h

theorem behind_ofOutcomes (h : Behind n m u) (first second : Except AnalysisError Analysis)
    : Behind n m (Comparison.ofOutcomes first second u).2 := by
  cases first with
  | error e => exact h
  | ok first =>
    cases second with
    | error e => exact h
    | ok second => exact h.run _

theorem cutShort_compareSnapshots (before after : Snapshot) (options : AnalysisOptions)
    (similarity : Similarity) (n : Nat)
    : CutShort n (compareSnapshots before after options similarity (.start (some n)))
        (compareSnapshots before after options similarity (.start none)) := by
  rw [compareSnapshots_eq, compareSnapshots_eq]
  rcases Pass.run_of_inStep (inStep_start n) (before.analyze options similarity)
    with ⟨hfirst, h⟩ | ⟨hfirst, h⟩
  . rw [hfirst]
    rcases Pass.run_of_inStep h (after.analyze options similarity)
      with ⟨hsecond, h⟩ | ⟨hsecond, h⟩
    . rw [hsecond]
      exact cutShort_ofOutcomes_of_inStep h _ _
    . -- The error of the first analysis comes before the cancellation of the second one.
      rw [hsecond]
      have hbehind := behind_ofOutcomes h
      cases hboth : ((before.analyze options similarity).run (.start none)).1 with
      | error e => exact cutShort_of_behind (.inr rfl) h
      | ok first => exact cutShort_of_behind (.inl rfl) (hbehind _ _)
  . -- The second analysis still begins, but it sends no report before it is stopped as well.
    obtain ⟨line, hsecond⟩ := run_analyze_of_canceled h.canceled after options similarity
    rw [hfirst, hsecond]
    exact cutShort_of_behind (.inl rfl) (behind_ofOutcomes ((h.receive_log line).run _) _ _)

theorem canceling_keeps_outcomes (s before after : Snapshot) (options : AnalysisOptions)
    (similarity : Similarity) (n : Nat)
    : CutShort n ((s.analyze options similarity).run (.start (some n)))
        ((s.analyze options similarity).run (.start none))
      ∧ CutShort n (compareSnapshots before after options similarity (.start (some n)))
        (compareSnapshots before after options similarity (.start none)) := by
  exact ⟨Pass.cutShort_run _ n, cutShort_compareSnapshots before after options similarity n⟩

theorem cancelsOn_ofOutcomes (h : CancelsOn m n) (first second : Except AnalysisError Analysis)
    : CancelsOn (Comparison.ofOutcomes first second m).2 n := by
  cases first with
  | error e => exact h
  | ok first =>
    cases second with
    | error e => exact h
    | ok second =>
      show CancelsOn ((Comparison.ofAnalyses first second).run m).2 n
      rw [Pass.run_snd]
      exact h.follow _

theorem exists_error_compareInTurns {turns : List Side}
    (h : n ≤ (compareInTurns turns before after options similarity
      (.start (some n))).2.reports.length)
    : ∃ e, (compareInTurns turns before after options similarity (.start (some n))).1
        = .error e := by
  have hcancels := cancelsOn_ofOutcomes ((cancelsOn_start n).followTurns
    (some (before.analyze options similarity).steps)
    (some (after.analyze options similarity).steps) turns)
  apply Comparison.exists_error_ofOutcomes
  rw [(hcancels _ _).canceled, (hcancels _ _).reportCount]
  exact h

theorem canceled_comparison_fails (turns : List Side) (before after : Snapshot)
    (options : AnalysisOptions) (similarity : Similarity) (n : Nat)
    : (n ≤ (compareInTurns turns before after options similarity
          (.start (some n))).2.reports.length
        → ∃ e, (compareInTurns turns before after options similarity (.start (some n))).1
          = .error e)
      ∧ (n ≤ (compareSnapshots before after options similarity (.start none)).2.reports.length
        → ∃ e, (compareSnapshots before after options similarity (.start (some n))).1
          = .error e) := by
  refine ⟨exists_error_compareInTurns, fun hle => ?_⟩
  have hreached := (cutShort_compareSnapshots before after options similarity n).reached
  rw [Nat.min_eq_left hle] at hreached
  rw [← compareInTurns_nil] at hreached ⊢
  exact exists_error_compareInTurns hreached

theorem canceled_comparison_fails_singleCompiland
    : (∃ e, (compareInTurns [.after, .before, .after]
          (Comparison.singleCompiland ".text$a" "a.obj" 4)
          (Comparison.singleCompiland ".text$b" "b.obj" 9) {} byteSimilarity
          (.start (some 23))).1 = .error e)
      ∧ ∃ e, (compareSnapshots (Comparison.singleCompiland ".text$a" "a.obj" 4)
          (Comparison.singleCompiland ".text$b" "b.obj" 9) {} byteSimilarity
          (.start (some 10))).1 = .error e := by
  constructor
  . exact (canceled_comparison_fails [.after, .before, .after] _ _ _ _ 23).1 (by decide)
  . exact (canceled_comparison_fails [] _ _ _ _ 10).2 (by decide)

end Snapshots

end Footprint
