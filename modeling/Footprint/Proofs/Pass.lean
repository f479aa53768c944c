import Footprint.Pass.Monitor
import Footprint.Proofs.Except

namespace Footprint

variable {α β σ : Type}

namespace Pass

theorem result_monadLift (result : Except AnalysisError α)
    : (monadLift result : Pass α).result = result := by
  rfl

theorem result_ofExcept (result : Except AnalysisError α) : (ofExcept result).result = result := by
  rfl

theorem result_checkpoint : Pass.checkpoint.result = .ok () := by
  rfl

theorem result_report (p : Progress) : (Pass.report p).result = .ok () := by
  rfl

theorem result_log (level : LogLevel) (message : String)
    : (Pass.log level message).result = .ok () := by
  rfl

protected theorem id_map (p : Pass α) : id <$> p = p := by
  show Pass.bind p (fun a => Pass.pure (id a)) = p
  have ⟨steps, result⟩ := p
  cases result with
  | error e => rfl
  | ok a =>
    unfold Pass.bind Pass.pure
    simp only [List.append_nil, id]

protected theorem bind_assoc {γ : Type} (p : Pass α) (next : α → Pass β) (last : β → Pass γ)
    : p >>= next >>= last = p >>= fun a => next a >>= last := by
  show Pass.bind (Pass.bind p next) last = Pass.bind p fun a => Pass.bind (next a) last
  unfold Pass.bind
  cases p.result with
  | error e => rfl
  | ok a =>
    dsimp only
    cases (next a).result with
    | error e => rfl
    | ok b => simp only [List.append_assoc]

instance : LawfulMonad Pass :=
  .mk' Pass Pass.id_map (fun _ _ => rfl) Pass.bind_assoc

theorem result_bind_of_ok {p : Pass α} {next : α → Pass β} {a : α} (h : p.result = .ok a)
    : (p >>= next).result = (next a).result := by
  rw [result_bind, h]
  rfl

theorem result_bind_eq_ok {p : Pass α} {next : α → Pass β} {b : β}
    : (p >>= next).result = .ok b ↔ ∃ a, p.result = .ok a ∧ (next a).result = .ok b := by
  rw [result_bind]
  exact Except.bind_eq_ok

theorem result_bind_eq_error {p : Pass α} {next : α → Pass β} {e : AnalysisError}
    : (p >>= next).result = .error e
        ↔ p.result = .error e ∨ ∃ a, p.result = .ok a ∧ (next a).result = .error e := by
  rw [result_bind]
  exact Except.bind_eq_error

section Checked

variable {a : α}

theorem result_run_bind (x : OptionT Pass α) (next : α → OptionT Pass β)
    : (x >>= next).run.result
        = x.run.result.bind fun a? => a?.elim (.ok none) fun a => (next a).run.result := by
  rw [OptionT.run_bind]
  unfold Option.elimM
  rw [result_bind]
  congr 1
  funext a?
  cases a? <;> rfl

theorem result_run_lift_bind (p : Pass α) (next : α → OptionT Pass β)
    : ((monadLift p : OptionT Pass α) >>= next).run.result
        = p.result.bind fun a => (next a).run.result := by
  rw [result_run_bind]
  show ((p >>= fun a => pure (some a)).result.bind _) = _
  rw [result_bind]
  cases p.result <;> rfl

theorem result_run_lift_bind_of_ok {p : Pass α} {next : α → OptionT Pass β}
    (h : p.result = .ok a)
    : ((monadLift p : OptionT Pass α) >>= next).run.result = (next a).run.result := by
  rw [result_run_lift_bind, h]
  rfl

end Checked

end Pass

namespace Monitor

variable {m : Monitor}

theorem canceled_receive_of_canceled (h : m.canceled = true) (e : Event)
    : (m.receive e).canceled = true := by
  cases e with
  | progress p => simp [receive, h]
  | log line => exact h

theorem follow_of_not_canceled {steps : List Step}
    (h : (m.follow steps).2.canceled = false)
    : (m.follow steps).1 = true := by
  -- The pass ends early only at a checkpoint that sees it canceled, and canceled it stays then.
  induction steps generalizing m with
  | nil => rfl
  | cons step steps ih =>
    cases step with
    | checkpoint =>
      unfold follow at h ⊢
      split
      . next hcanceled =>
        rw [if_pos hcanceled, hcanceled] at h
        cases h
      . next hnot =>
        rw [if_neg hnot] at h
        exact ih h
    | event e => exact ih h

theorem canceled_receive_of_never (hnever : m.cancelAt = none) (e : Event)
    : (m.receive e).cancelAt = none ∧ (m.receive e).canceled = m.canceled := by
  cases e with
  | progress p => simp [receive, hnever]
  | log line => exact ⟨hnever, rfl⟩

theorem follow_of_never (hnever : m.cancelAt = none) (steps : List Step)
    : (m.follow steps).2.cancelAt = none ∧ (m.follow steps).2.canceled = m.canceled := by
  induction steps generalizing m with
  | nil => exact ⟨hnever, rfl⟩
  | cons step steps ih =>
    cases step with
    | checkpoint =>
      unfold follow
      split
      . exact ⟨hnever, rfl⟩
      . exact ih hnever
    | event e =>
      have ⟨hstill, hcanceled⟩ := canceled_receive_of_never hnever e
      rw [← hcanceled]
      exact ih hstill

end Monitor

theorem Pass.run_snd (p : Pass α) (m : Monitor) : (p.run m).2 = (m.follow p.steps).2 := by
  unfold Pass.run
  split
  . next hfollow => rw [hfollow]
  . next hfollow => rw [hfollow]

theorem Pass.run_of_not_canceled {p : Pass α} {m : Monitor}
    (h : (p.run m).2.canceled = false)
    : (p.run m).1 = p.result := by
  rw [run_snd] at h
  have hcompleted := Monitor.follow_of_not_canceled h
  unfold Pass.run
  split
  . rfl
  . next hfollow =>
    rw [hfollow] at hcompleted
    cases hcompleted

theorem Pass.not_canceled_of_never {m : Monitor} (hnever : m.cancelAt = none) (p : Pass α)
    : (p.run m).2.cancelAt = none ∧ (p.run m).2.canceled = m.canceled := by
  rw [run_snd]
  exact Monitor.follow_of_never hnever p.steps

theorem Pass.not_canceled_of_start_none (p : Pass α)
    : (p.run (.start none)).2.canceled = false := by
  exact (not_canceled_of_never rfl p).2

theorem Pass.run_start_none (p : Pass α) : (p.run (.start none)).1 = p.result := by
  exact run_of_not_canceled (not_canceled_of_start_none p)

theorem Pass.result_of_run_eq_ok {p : Pass α} {m : Monitor} {a : α} (h : (p.run m).1 = .ok a)
    : p.result = .ok a := by
  unfold Pass.run at h
  split at h
  . exact h
  . cases h

namespace Sweep

theorem exists_result_advance (sweep : Sweep) (count : Nat)
    : ∃ next, (sweep.advance count).result = .ok next := by
  unfold advance
  rw [Pass.result_bind_of_ok Pass.result_checkpoint]
  dsimp only
  split
  . exact ⟨_, rfl⟩
  . exact ⟨_, rfl⟩

theorem exists_result_advanceEach (sweep : Sweep) (count : Nat)
    : ∃ next, (sweep.advanceEach count).result = .ok next := by
  induction count generalizing sweep with
  | zero => exact ⟨sweep, rfl⟩
  | succ count ih =>
    have ⟨next, hnext⟩ := exists_result_advance sweep 1
    unfold advanceEach
    rw [Pass.result_bind_of_ok hnext]
    exact ih next

variable {visit : Sweep → α → Pass Sweep} (take : σ → α → Except AnalysisError σ)

theorem result_goThrough (hvisit : ∀ sweep item, ∃ next, (visit sweep item).result = .ok next)
    (sweep : Sweep) (made : σ) (items : List α)
    : (goThrough visit (fun made item => .ofExcept (take made item)) sweep made items).result.map
          Prod.snd
        = items.foldlM take made := by
  induction items generalizing sweep made with
  | nil => rfl
  | cons item items ih =>
    have ⟨next, hnext⟩ := hvisit sweep item
    unfold goThrough
    rw [Pass.result_bind_of_ok hnext, Pass.result_bind, Pass.result_ofExcept, List.foldlM_cons]
    cases take made item with
    | error e => rfl
    | ok made => exact ih next made

theorem run_eq_bind (visit : Sweep → α → Pass Sweep) (task : Task) (total : Nat) (start : σ)
    (found : σ → Nat) (items : List α)
    : run task total visit take start found items
        = goThrough visit (fun made item => .ofExcept (take made item)) { task, total } start items
          >>= fun through => through.1.finish (found through.2) >>= fun _ => pure through.2 := by
  rfl

theorem result_run (hvisit : ∀ sweep item, ∃ next, (visit sweep item).result = .ok next)
    (task : Task) (total : Nat) (start : σ) (found : σ → Nat) (items : List α)
    : (run task total visit take start found items).result = items.foldlM take start := by
  have h := result_goThrough take hvisit { task, total } start items
  rw [run_eq_bind, Pass.result_bind, ← h]
  cases (goThrough visit _ { task, total } start items).result with
  | error e => rfl
  | ok made => rfl

section Checked

variable {takeIn : σ → α → OptionT Pass σ} {take? : σ → α → Option σ}

theorem result_run_goThrough
    (hvisit : ∀ sweep item, ∃ next, (visit sweep item).result = .ok next)
    (htake : ∀ made item, (takeIn made item).run.result = .ok (take? made item)) (sweep : Sweep)
    (made : σ) (items : List α)
    : (goThrough (fun sweep item => (visit sweep item : OptionT Pass Sweep)) takeIn sweep made
          items).run.result.map (·.map Prod.snd)
        = .ok (items.foldlM take? made) := by
  induction items generalizing sweep made with
  | nil => rfl
  | cons item items ih =>
    have ⟨next, hnext⟩ := hvisit sweep item
    unfold goThrough
    rw [Pass.result_run_lift_bind_of_ok hnext, Pass.result_run_bind, htake, List.foldlM_cons]
    cases take? made item with
    | none => rfl
    | some made => exact ih next made

theorem result_run_runIn (hvisit : ∀ sweep item, ∃ next, (visit sweep item).result = .ok next)
    (htake : ∀ made item, (takeIn made item).run.result = .ok (take? made item)) (task : Task)
    (total : Nat) (start : σ) (found : σ → Nat) (items : List α)
    : (runIn task total visit takeIn start found items).run.result
        = .ok (items.foldlM take? start) := by
  have h := result_run_goThrough hvisit htake { task, total } start items
  unfold runIn
  rw [Pass.result_run_bind]
  cases hthrough : (goThrough _ takeIn { task, total } start items).run.result with
  | error e =>
    rw [hthrough] at h
    cases h
  | ok through =>
    rw [hthrough] at h
    cases through with
    | none => exact h
    | some through => exact h

end Checked

theorem result_mapEach (task : Task) (make : α → Except AnalysisError σ) (items : List α)
    : (mapEach task make items).result = items.mapM make := by
  unfold mapEach
  rw [Pass.result_bind, result_run _ fun sweep _ => exists_result_advance sweep 1]
  rw [List.mapM_eq_reverse_foldlM_cons]
  rfl

end Sweep
end Footprint
