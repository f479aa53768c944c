import Mathlib.Data.List.Forall2
import Mathlib.Data.List.Perm.Basic

namespace Footprint

variable {α β γ δ : Type}

def Corresponds (R : α → β → Prop) (xs : List α) (ys : List β) : Prop :=
  ∃ zs, List.Forall₂ R xs zs ∧ zs.Perm ys

variable {R : α → β → Prop} {xs : List α} {ys : List β}

theorem forall₂_of_common {S : δ → α → Prop} {T : δ → β → Prop} {ds : List δ}
    {xs : List α} {ys : List β} (hxs : List.Forall₂ S ds xs) (hys : List.Forall₂ T ds ys)
    (h : ∀ d x y, S d x → T d y → R x y)
    : List.Forall₂ R xs ys := by
  induction hxs generalizing ys with
  | nil =>
    cases hys
    exact .nil
  | cons hx _ ih =>
    cases hys with
    | cons hy hys => exact .cons (h _ _ _ hx hy) (ih hys)

namespace Corresponds

theorem exists_of_mem (h : Corresponds R xs ys) {y : β} (hy : y ∈ ys)
    : ∃ x ∈ xs, R x y := by
  obtain ⟨zs, hzs, hperm⟩ := h
  rw [← hperm.mem_iff] at hy
  obtain ⟨i, hi, rfl⟩ := List.getElem_of_mem hy
  have hlength := hzs.length_eq
  exact ⟨xs[i], List.getElem_mem _, hzs.get (hlength ▸ hi) hi⟩

theorem perm_map {f : α → δ} {g : β → δ} (h : Corresponds R xs ys)
    (hfg : ∀ x y, R x y → g y = f x)
    : (xs.map f).Perm (ys.map g) := by
  obtain ⟨zs, hzs, hperm⟩ := h
  have hmap : zs.map g = xs.map f := by
    rw [← List.forall₂_eq_eq_eq, List.forall₂_map_left_iff, List.forall₂_map_right_iff]
    exact (hzs.imp hfg).flip
  rw [← hmap]
  exact hperm.map g

theorem length_eq (h : Corresponds R xs ys) : xs.length = ys.length := by
  have ⟨zs, hzs, hperm⟩ := h
  rw [hzs.length_eq, hperm.length_eq]

theorem flip (h : Corresponds R xs ys) : Corresponds (fun y x => R x y) ys xs := by
  have ⟨zs, hzs, hperm⟩ := h
  have ⟨ws, hws, hperm'⟩ := List.perm_comp_forall₂ hperm.symm hzs.flip
  exact ⟨ws, hws, hperm'⟩

theorem filter {p : α → Bool} {q : β → Bool} (h : Corresponds R xs ys)
    (hpq : ∀ x y, R x y → p x = q y)
    : Corresponds R (xs.filter p) (ys.filter q) := by
  have ⟨zs, hzs, hperm⟩ := h
  refine ⟨zs.filter q, ?_, hperm.filter q⟩
  apply List.rel_filter _ hzs
  intro x y hxy
  dsimp only
  rw [hpq x y hxy]

theorem map {S : γ → δ → Prop} {f : α → γ} {g : β → δ} (h : Corresponds R xs ys)
    (hfg : ∀ x y, R x y → S (f x) (g y))
    : Corresponds S (xs.map f) (ys.map g) := by
  have ⟨zs, hzs, hperm⟩ := h
  refine ⟨zs.map g, ?_, hperm.map g⟩
  rw [List.forall₂_map_left_iff, List.forall₂_map_right_iff]
  exact hzs.imp hfg

end Corresponds
end Footprint
