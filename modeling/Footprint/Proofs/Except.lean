import Mathlib.Data.List.Forall2

namespace Footprint.Except

variable {ε α β : Type} {e : ε} {b : β}

theorem pure_eq_ok (a : α) : (pure a : Except ε α) = .ok a := by
  rfl

theorem ok_bind (a : α) (f : α → Except ε β) : (.ok a >>= f) = f a := by
  rfl

theorem bind_eq_ok {x : Except ε α} {f : α → Except ε β}
    : (x >>= f) = .ok b ↔ ∃ a, x = .ok a ∧ f a = .ok b := by
  cases x with
  | error e => simp [bind, Except.bind]
  | ok a => simp [bind, Except.bind]

theorem bind_eq_error {x : Except ε α} {f : α → Except ε β}
    : (x >>= f) = .error e ↔ x = .error e ∨ ∃ a, x = .ok a ∧ f a = .error e := by
  cases x with
  | error e => simp [bind, Except.bind]
  | ok a => simp [bind, Except.bind]

theorem then_eq_ok {x : Except ε Unit} {y : Except ε β}
    : (x >>= fun _ => y) = .ok b ↔ x = .ok () ∧ y = .ok b := by
  rw [bind_eq_ok]
  constructor
  . intro ⟨⟨⟩, hx, hy⟩
    exact ⟨hx, hy⟩
  . intro ⟨hx, hy⟩
    exact ⟨(), hx, hy⟩

theorem then_eq_error {x : Except ε Unit} {y : Except ε β}
    : (x >>= fun _ => y) = .error e ↔ x = .error e ∨ x = .ok () ∧ y = .error e := by
  rw [bind_eq_error]
  constructor
  . rintro (hx | ⟨⟨⟩, hx, hy⟩)
    . exact .inl hx
    . exact .inr ⟨hx, hy⟩
  . rintro (hx | ⟨hx, hy⟩)
    . exact .inl hx
    . exact .inr ⟨(), hx, hy⟩

theorem forM_cons (f : α → Except ε Unit) (x : α) (xs : List α)
    : (x :: xs).forM f = (f x >>= fun _ => xs.forM f) := by
  rfl

theorem forM_eq_ok {f : α → Except ε Unit} {xs : List α}
    : xs.forM f = .ok () ↔ ∀ x ∈ xs, f x = .ok () := by
  induction xs with
  | nil =>
    simp only [List.not_mem_nil, false_implies, implies_true, iff_true]
    rfl
  | cons x xs ih =>
    rw [forM_cons, then_eq_ok, ih]
    simp

theorem exists_of_forM_eq_error {f : α → Except ε Unit} {xs : List α}
    (h : xs.forM f = .error e)
    : ∃ x ∈ xs, f x = .error e := by
  induction xs with
  | nil => cases h
  | cons x xs ih =>
    rw [forM_cons, then_eq_error] at h
    cases h with
    | inl hx => exact ⟨x, List.mem_cons_self, hx⟩
    | inr hxs =>
      have ⟨y, hmem, hy⟩ := ih hxs.2
      exact ⟨y, List.mem_cons_of_mem x hmem, hy⟩

theorem mapM_eq_ok {f : α → Except ε β} {xs : List α} {ys : List β}
    : xs.mapM f = .ok ys ↔ List.Forall₂ (fun x y => f x = .ok y) xs ys := by
  induction xs generalizing ys with
  | nil =>
    rw [List.mapM_nil, pure_eq_ok]
    simp [eq_comm]
  | cons x xs ih =>
    rw [List.mapM_cons]
    simp only [bind_eq_ok, pure_eq_ok, ih, Except.ok.injEq]
    constructor
    . rintro ⟨y, hy, ys', hys, rfl⟩
      exact .cons hy hys
    . rintro (_ | ⟨hy, hys⟩)
      exact ⟨_, hy, _, hys, rfl⟩

theorem exists_of_forall₂ {R : α → β → Prop} {xs : List α} {ys : List β}
    (h : List.Forall₂ R xs ys) {y : β} (hy : y ∈ ys)
    : ∃ x ∈ xs, R x y := by
  induction h with
  | nil => cases hy
  | cons hx _ ih =>
    rcases List.mem_cons.1 hy with rfl | hy
    . exact ⟨_, List.mem_cons_self, hx⟩
    . have ⟨x, hmem, hx⟩ := ih hy
      exact ⟨x, List.mem_cons_of_mem _ hmem, hx⟩

theorem exists_of_mapM_eq_ok {f : α → Except ε β} {xs : List α} {ys : List β}
    (h : xs.mapM f = .ok ys) {y : β} (hy : y ∈ ys)
    : ∃ x ∈ xs, f x = .ok y := by
  exact exists_of_forall₂ (mapM_eq_ok.1 h) hy

theorem eq_map_of_mapM_eq_ok {f : α → Except ε β} {g : α → β} {xs : List α} {ys : List β}
    (hg : ∀ x y, f x = .ok y → y = g x) (h : xs.mapM f = .ok ys)
    : ys = xs.map g := by
  rw [mapM_eq_ok] at h
  induction h with
  | nil => rfl
  | cons hx _ ih => rw [List.map_cons, hg _ _ hx, ih]

theorem exists_of_mapM_eq_error {f : α → Except ε β} {xs : List α} (h : xs.mapM f = .error e)
    : ∃ x ∈ xs, f x = .error e := by
  induction xs with
  | nil => cases h
  | cons x xs ih =>
    rw [List.mapM_cons] at h
    simp only [bind_eq_error, pure_eq_ok, reduceCtorEq, and_false, exists_false, or_false] at h
    rcases h with hx | ⟨y, _, hxs⟩
    . exact ⟨x, List.mem_cons_self, hx⟩
    . have ⟨z, hmem, hz⟩ := ih hxs
      exact ⟨z, List.mem_cons_of_mem x hmem, hz⟩

theorem exists_mapM_eq_ok {f : α → Except ε β} {xs : List α}
    : (∃ ys, xs.mapM f = .ok ys) ↔ ∀ x ∈ xs, ∃ y, f x = .ok y := by
  induction xs with
  | nil =>
    simp only [List.not_mem_nil, false_implies, implies_true, iff_true]
    exact ⟨[], rfl⟩
  | cons x xs ih =>
    simp only [List.mapM_cons, bind_eq_ok, pure_eq_ok, List.mem_cons, forall_eq_or_imp, ← ih]
    constructor
    . intro ⟨_, y, hy, ys, hys, _⟩
      exact ⟨⟨y, hy⟩, ys, hys⟩
    . intro ⟨⟨y, hy⟩, ys, hys⟩
      exact ⟨y :: ys, y, hy, ys, hys, rfl⟩

theorem foldlM_append (f : α → Except ε (List β)) (xs : List α) (start : List β)
    : (xs.foldlM (fun ys x => do return ys ++ (← f x)) start)
        = (xs.mapM f).map (start ++ ·.flatten) := by
  induction xs generalizing start with
  | nil => simp [pure, Except.pure, Except.map]
  | cons x xs ih =>
    rw [List.foldlM_cons, List.mapM_cons]
    cases f x with
    | error e => rfl
    | ok ys =>
      show xs.foldlM _ (start ++ ys) = _
      rw [ih]
      cases hmap : xs.mapM f with
      | error e => simp [bind, Except.bind, Except.map]
      | ok yss => simp [bind, Except.bind, Except.map, pure, Except.pure]

theorem exists_foldlM_eq_ok {σ : Type} {f : σ → α → Except ε σ} {xs : List α}
    (h : ∀ x ∈ xs, ∀ a, ∃ b, f a x = .ok b) (start : σ)
    : ∃ b, xs.foldlM f start = .ok b := by
  induction xs generalizing start with
  | nil => exact ⟨start, rfl⟩
  | cons x xs ih =>
    have ⟨next, hnext⟩ := h x List.mem_cons_self start
    rw [List.foldlM_cons, hnext]
    exact ih (fun y hy => h y (List.mem_cons_of_mem x hy)) next

theorem of_foldlM_eq_ok {σ : Type} {f : σ → α → Except ε σ} {P : σ → Prop} {xs : List α}
    (hstep : ∀ a, P a → ∀ x b, f a x = .ok b → P b) {start last : σ} (hstart : P start)
    (h : xs.foldlM f start = .ok last)
    : P last := by
  induction xs generalizing start with
  | nil =>
    cases h
    exact hstart
  | cons x xs ih =>
    rw [List.foldlM_cons, bind_eq_ok] at h
    have ⟨next, hnext, h⟩ := h
    exact ih (hstep start hstart x next hnext) h

theorem foldlM_eq_ok {σ : Type} {f : σ → α → Except ε σ} {g : σ → α → σ}
    (h : ∀ a x, f a x = .ok (g a x)) (xs : List α) (start : σ)
    : xs.foldlM f start = .ok (xs.foldl g start) := by
  induction xs generalizing start with
  | nil => rfl
  | cons x xs ih =>
    rw [List.foldlM_cons, List.foldl_cons, h]
    exact ih (g start x)

end Footprint.Except
