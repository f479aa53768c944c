import Footprint.Proofs.Pass.Interval

/-!
This module contains what an observer sees of tasks that come to their end: reports of which none
tells of fewer items than an earlier one, and at last the report that all items are done. A pass is
a sequence of such tasks.
-/

namespace Footprint

variable {α β σ : Type}

structure Completes (task : Task) (total : Nat) (reports : List Progress) : Prop where
  ended : ∃ earlier found, reports = earlier ++ [.finished task total total found]
    ∧ ∀ p ∈ earlier, ∃ processed, p = .underway task processed total
  within : ∀ p ∈ reports, p.current ≤ total
  neverLess : (reports.map Progress.current).Pairwise (· ≤ ·)

/--
Whether reports are those of whole tasks, one after another, each over some number of items. Work
of unknown extent may begin before or after a task.
-/
inductive CompletesAll : List (Task × Nat) → List Progress → Prop where
  | nil : CompletesAll [] []
  | begun {tasks : List (Task × Nat)} {reports : List Progress} (activity : String) :
    CompletesAll tasks reports → CompletesAll tasks (.begun activity :: reports)
  | cons {task : Task} {total : Nat} {tasks : List (Task × Nat)} {course reports : List Progress} :
    Completes task total course → CompletesAll tasks reports
      → CompletesAll ((task, total) :: tasks) (course ++ reports)

theorem Underway.completes {task : Task} {total : Nat} {reports : List Progress}
    (h : Underway task total 0 total reports) (found : Nat)
    : Completes task total (reports ++ [.finished task total total found]) where
  ended := by
    refine ⟨reports, found, rfl, ?_⟩
    intro p hp
    have ⟨processed, heq, _⟩ := h.alike p hp
    exact ⟨processed, heq⟩
  within := by
    intro p hp
    rw [List.mem_append, List.mem_singleton] at hp
    rcases hp with hp | rfl
    . exact (h.current_bounds hp).2
    . apply Nat.le_refl
  neverLess := by
    rw [List.map_append, List.pairwise_append]
    refine ⟨h.increasing.imp Nat.le_of_lt, List.pairwise_singleton _ _, ?_⟩
    intro current hcurrent last hlast
    have ⟨p, hp, heq⟩ := List.mem_map.1 hcurrent
    rw [List.map_singleton, List.mem_singleton] at hlast
    rw [← heq, hlast]
    exact (h.current_bounds hp).2

namespace CompletesAll

variable {tasks others : List (Task × Nat)} {reports more : List Progress}

theorem single {task : Task} {total : Nat} (h : Completes task total reports)
    : CompletesAll [(task, total)] reports := by
  rw [← List.append_nil reports]
  exact .cons h .nil

theorem append (h : CompletesAll tasks reports) (hmore : CompletesAll others more)
    : CompletesAll (tasks ++ others) (reports ++ more) := by
  induction h with
  | nil => exact hmore
  | begun activity _ ih => exact .begun activity ih
  | cons hcourse _ ih =>
    rw [List.append_assoc]
    exact .cons hcourse ih

end CompletesAll

namespace Pass

variable {p : Pass α} {next : α → Pass β} {tasks others : List (Task × Nat)}

def Performs (p : Pass α) (tasks : List (Task × Nat)) : Prop :=
  ∀ a, p.result = .ok a → CompletesAll tasks (reportsOf p.steps)

theorem Performs.bind (h : p.Performs tasks)
    (hnext : ∀ a, p.result = .ok a → (next a).Performs others)
    : (p >>= next).Performs (tasks ++ others) := by
  intro b hb
  have ⟨a, ha, hb⟩ := result_bind_eq_ok.1 hb
  rw [steps_bind_of_ok ha, reportsOf_append]
  apply (h a ha).append
  exact hnext a ha b hb

theorem Performs.cons {task : Task × Nat} (h : p.Performs [task])
    (hnext : ∀ a, p.result = .ok a → (next a).Performs others)
    : (p >>= next).Performs (task :: others) := by
  exact h.bind hnext

theorem performs_of_silent (h : reportsOf p.steps = []) : p.Performs [] := by
  intro a _
  rw [h]
  exact .nil

theorem Performs.bind_silent (h : p.Performs tasks)
    (hnext : ∀ a, p.result = .ok a → reportsOf (next a).steps = [])
    : (p >>= next).Performs tasks := by
  rw [← List.append_nil tasks]
  apply h.bind
  intro a ha
  exact performs_of_silent (hnext a ha)

theorem performs_silent_bind (h : reportsOf p.steps = [])
    (hnext : ∀ a, p.result = .ok a → (next a).Performs tasks)
    : (p >>= next).Performs tasks := by
  rw [← List.nil_append tasks]
  exact (performs_of_silent h).bind hnext

theorem performs_begun_bind {next : Unit → Pass β} (activity : String)
    (hnext : (next ()).Performs tasks)
    : (report (.begun activity) >>= next).Performs tasks := by
  intro b hb
  have hb : (next ()).result = .ok b := hb
  exact .begun activity (hnext b hb)

theorem Performs.exists_reports_run {m : Monitor} {a : α} (h : p.Performs tasks)
    (hrun : (p.run m).1 = .ok a)
    : ∃ sent, (p.run m).2.reports = m.reports ++ sent ∧ CompletesAll tasks sent := by
  refine ⟨_, reports_run (follow_of_run_eq_ok hrun), ?_⟩
  exact h a (result_of_run_eq_ok hrun)

end Pass

namespace Sweep

variable {task : Task} {total processed : Nat} {visit : Sweep → α → Pass Sweep} {count : α → Nat}
  {take : σ → α → Except AnalysisError σ} {start made last : σ} {found : σ → Nat} {items : List α}

structure Counts (visit : Sweep → α → Pass Sweep) (count : α → Nat) : Prop where
  result : ∀ task total processed item,
    (visit (having task total processed) item).result
      = .ok (having task total (processed + count item))
  underway : ∀ task total processed item,
    Underway task total processed (processed + count item)
      (reportsOf (visit (having task total processed) item).steps)

theorem counts_advance (count : α → Nat)
    : Counts (fun sweep item => sweep.advance (count item)) count where
  result task total processed item := result_advance task total processed (count item)
  underway task total processed item := underway_advance task total processed (count item)

theorem advanceEach_eq (sweep : Sweep) (n : Nat)
    : sweep.advanceEach n = (List.replicate n 1).foldlM advance sweep := by
  induction n generalizing sweep with
  | zero => rfl
  | succ n ih =>
    rw [List.replicate_succ, List.foldlM_cons]
    unfold advanceEach
    simp only [ih]

theorem counts_advanceEach (count : α → Nat)
    : Counts (fun sweep item => sweep.advanceEach (count item)) count where
  result task total processed item := by
    rw [advanceEach_eq, result_foldlM_advance, List.sum_replicate_nat, Nat.mul_one]
  underway task total processed item := by
    have h := @underway_foldlM_advance task total processed (List.replicate (count item) 1)
    rw [List.sum_replicate_nat, Nat.mul_one] at h
    rw [advanceEach_eq]
    exact h

theorem result_goThrough_having (hvisit : Counts visit count)
    : (goThrough visit (fun made item => .ofExcept (take made item)) (having task total processed)
          made items).result
        = (items.foldlM take made).map
            (having task total (processed + (items.map count).sum), ·) := by
  induction items generalizing processed made with
  | nil => rfl
  | cons item items ih =>
    unfold goThrough
    rw [Pass.result_bind_of_ok (hvisit.result task total processed item), Pass.result_bind,
      Pass.result_ofExcept, List.foldlM_cons, List.map_cons, List.sum_cons, ← Nat.add_assoc]
    cases take made item with
    | error e => rfl
    | ok next => apply ih

theorem underway_goThrough (hvisit : Counts visit count)
    (hlast : items.foldlM take made = .ok last)
    : Underway task total processed (processed + (items.map count).sum)
        (reportsOf (goThrough visit (fun made item => .ofExcept (take made item))
          (having task total processed) made items).steps) := by
  induction items generalizing processed made with
  | nil => apply Underway.nil
  | cons item items ih =>
    rw [List.foldlM_cons] at hlast
    have ⟨next, hnext, hlast⟩ := Except.bind_eq_ok.1 hlast
    unfold goThrough
    rw [Pass.steps_bind_of_ok (hvisit.result task total processed item),
      Pass.steps_bind_of_ok ((Pass.result_ofExcept _).trans hnext), reportsOf_append,
      reportsOf_append, List.map_cons, List.sum_cons, ← Nat.add_assoc]
    apply (hvisit.underway task total processed item).append
    . exact ih hlast
    . apply Nat.le_add_right
    . apply Nat.le_add_right

theorem performs_run (hvisit : Counts visit count) (htotal : (items.map count).sum = total)
    : (run task total visit take start found items).Performs [(task, total)] := by
  intro last hlast
  have hresult := @result_goThrough_having _ _ task total 0 visit count take start items hvisit
  rw [run_eq_bind] at hlast
  have ⟨through, hthrough, _⟩ := Pass.result_bind_eq_ok.1 hlast
  replace hresult := hthrough.symm.trans hresult
  cases hitems : items.foldlM take start with
  | error e =>
    rw [hitems] at hresult
    cases hresult
  | ok made =>
    rw [hitems, Nat.zero_add, htotal] at hresult
    cases hresult
    -- All items are done by then, so the last report tells of as many as the task announces.
    have hunderway := @underway_goThrough _ _ task total 0 visit count take start made items
      hvisit hitems
    rw [Nat.zero_add, htotal] at hunderway
    rw [run_eq_bind, Pass.steps_bind_of_ok hthrough, reportsOf_append]
    apply CompletesAll.single
    exact hunderway.completes (found made)

theorem performs_run_one_by_one
    : (run task items.length (fun sweep _ => sweep.advance 1) take start found items).Performs
        [(task, items.length)] := by
  apply performs_run (counts_advance fun _ => 1)
  rw [List.map_const', List.sum_replicate_nat, Nat.mul_one]

theorem performs_mapEach (task : Task) (make : α → Except AnalysisError σ) (items : List α)
    : (mapEach task make items).Performs [(task, items.length)] := by
  unfold mapEach
  apply performs_run_one_by_one.bind_silent
  intro made _
  rfl

theorem length_of_mapEach {make : α → Except AnalysisError σ} {made : List σ}
    (h : (mapEach task make items).result = .ok made)
    : made.length = items.length := by
  rw [result_mapEach, Except.mapM_eq_ok] at h
  exact h.length_eq.symm

end Sweep
end Footprint
