import Footprint.FirstSeen
import Mathlib.Algebra.BigOperators.Group.List.Basic
import Mathlib.Algebra.GroupWithZero.Nat
import Mathlib.Data.Finset.Card
import Mathlib.Data.List.Forall2
import Mathlib.Data.List.Nodup

namespace Footprint

variable {κ α : Type} [DecidableEq κ]

theorem firstRepeat?_go_eq_none {seen ks : List κ}
    : firstRepeat?.go seen ks = none ↔ ks.Nodup ∧ ∀ k ∈ ks, k ∉ seen := by
  induction ks generalizing seen with
  | nil => simp [firstRepeat?.go]
  | cons k ks ih =>
    unfold firstRepeat?.go
    split
    . next hk => simp [hk]
    . next hk =>
      rw [ih]
      simp only [List.mem_cons, not_or, List.nodup_cons, forall_eq_or_imp]
      constructor
      . intro ⟨hnodup, hseen⟩
        refine ⟨⟨?_, hnodup⟩, hk, fun j hj => (hseen j hj).2⟩
        intro hmem
        exact (hseen k hmem).1 rfl
      . intro ⟨⟨hmem, hnodup⟩, _, hseen⟩
        refine ⟨hnodup, fun j hj => ⟨?_, hseen j hj⟩⟩
        rintro rfl
        exact hmem hj

theorem firstRepeat?_eq_none {ks : List κ} : firstRepeat? ks = none ↔ ks.Nodup := by
  unfold firstRepeat?
  rw [firstRepeat?_go_eq_none]
  simp

theorem firstRepeat?_go_eq_some {seen ks : List κ} {k : κ}
    (h : firstRepeat?.go seen ks = some k)
    : 2 ≤ seen.count k + ks.count k ∧ k ∈ ks := by
  induction ks generalizing seen with
  | nil => simp [firstRepeat?.go] at h
  | cons j ks ih =>
    unfold firstRepeat?.go at h
    split at h
    . next hj =>
      cases h
      have := List.count_pos_iff.2 hj
      simp only [List.count_cons_self, List.mem_cons_self, and_true]
      omega
    . have ⟨hcount, hmem⟩ := ih h
      rw [List.count_cons] at hcount ⊢
      refine ⟨by omega, List.mem_cons_of_mem j hmem⟩

theorem count_of_firstRepeat?_eq_some {ks : List κ} {k : κ} (h : firstRepeat? ks = some k)
    : 2 ≤ ks.count k := by
  have := (firstRepeat?_go_eq_some h).1
  rw [List.count_nil] at this
  omega

theorem firstSeen_cons (k : κ) (ks : List κ)
    : firstSeen (k :: ks) = k :: (firstSeen ks).filter (· ≠ k) := by
  rfl

theorem firstSeen_append (ks js : List κ)
    : firstSeen (ks ++ js) = firstSeen ks ++ (firstSeen js).filter (· ∉ ks) := by
  induction ks with
  | nil => simp [firstSeen]
  | cons k ks ih =>
    rw [List.cons_append, firstSeen_cons, firstSeen_cons, ih, List.filter_append,
      List.filter_filter, List.cons_append]
    congr 2
    apply List.filter_congr
    intro j _
    simp [not_or]

theorem firstSeen_append_singleton (ks : List κ) (k : κ)
    : firstSeen (ks ++ [k]) = if k ∈ ks then firstSeen ks else firstSeen ks ++ [k] := by
  rw [firstSeen_append]
  split <;> simp [firstSeen, *]

theorem firstSeen_of_nodup {ks : List κ} (h : ks.Nodup) : firstSeen ks = ks := by
  induction ks with
  | nil => rfl
  | cons k ks ih =>
    have ⟨hk, hks⟩ := List.nodup_cons.1 h
    rw [firstSeen_cons, ih hks, List.filter_eq_self.2]
    intro j hj
    have hne : j ≠ k := by
      rintro rfl
      exact hk hj
    simp [hne]

theorem firstSeen_flatMap_of_forall₂ {β : Type} {f : α → List κ} {g : β → List κ} {xs : List α}
    {ys : List β} (h : List.Forall₂ (fun x y => g y = firstSeen (f x)) xs ys)
    : firstSeen (ys.flatMap g) = firstSeen (xs.flatMap f) := by
  induction h with
  | nil => rfl
  | cons hx _ ih =>
    rw [List.flatMap_cons, List.flatMap_cons, firstSeen_append, firstSeen_append, hx, ih,
      firstSeen_of_nodup (nodup_firstSeen _)]
    simp only [mem_firstSeen]

theorem length_firstSeen_le (ks : List κ) : (firstSeen ks).length ≤ ks.length := by
  induction ks with
  | nil => simp [firstSeen]
  | cons k ks ih =>
    have := List.length_filter_le (· ≠ k) (firstSeen ks)
    rw [firstSeen_cons, List.length_cons, List.length_cons]
    omega

section Find

variable {key : α → κ} {k : κ} {x : α} {xs : List α}

omit [DecidableEq κ] in
theorem of_filter_eq_cons {p : α → Bool} {rest : List α} (h : xs.filter p = x :: rest)
    : x ∈ xs ∧ p x = true := by
  rw [← List.mem_filter, h]
  exact List.mem_cons_self

theorem find?_key_eq_none_iff : xs.find? (key · = k) = none ↔ k ∉ xs.map key := by
  rw [List.find?_eq_none, List.mem_map]
  simp only [decide_eq_true_eq, not_exists, not_and]

theorem find?_key_eq_some_iff (h : (xs.map key).Nodup)
    : xs.find? (key · = k) = some x ↔ x ∈ xs ∧ key x = k := by
  constructor
  . intro hfind
    have hkey := List.find?_some hfind
    exact ⟨List.mem_of_find?_eq_some hfind, by simpa using hkey⟩
  . intro ⟨hmem, hkey⟩
    cases hfind : xs.find? (key · = k) with
    | none =>
      rw [find?_key_eq_none_iff] at hfind
      exact absurd (List.mem_map.2 ⟨x, hmem, hkey⟩) hfind
    | some y =>
      have hkeyy := List.find?_some hfind
      simp only [decide_eq_true_eq] at hkeyy
      have hmemy := List.mem_of_find?_eq_some hfind
      rw [List.inj_on_of_nodup_map h hmemy hmem (hkeyy.trans hkey.symm)]

end Find

section Firsts

def firstOfEach (key : α → κ) (xs : List α) : List α :=
  (firstSeen (xs.map key)).filterMap fun k => xs.find? (key · = k)

theorem filterMap_head?_classes (key : α → κ) (xs : List α)
    : (classes key xs).filterMap (·.2.head?) = firstOfEach key xs := by
  unfold classes firstOfEach
  rw [List.filterMap_map]
  apply List.filterMap_congr
  intro k _
  exact List.head?_filter

theorem map_firstOfEach (key : α → κ) (xs : List α)
    : (firstOfEach key xs).map key = firstSeen (xs.map key) := by
  unfold firstOfEach
  rw [List.map_filterMap]
  have hkey : ∀ k ∈ firstSeen (xs.map key), (xs.find? (key · = k)).map key = some k := by
    intro k hk
    rw [mem_firstSeen] at hk
    cases hfind : xs.find? (key · = k) with
    | none => exact absurd hk (find?_key_eq_none_iff.1 hfind)
    | some x => simpa using List.find?_some hfind
  rw [List.filterMap_congr hkey, List.filterMap_some]

theorem toFinset_firstSeen (ks : List κ) : (firstSeen ks).toFinset = ks.toFinset := by
  ext k
  rw [List.mem_toFinset, List.mem_toFinset, mem_firstSeen]

theorem length_firstSeen (ks : List κ) : (firstSeen ks).length = ks.toFinset.card := by
  rw [← toFinset_firstSeen, List.toFinset_card_of_nodup (nodup_firstSeen ks)]

theorem perm_firstSeen_iff {ks js : List κ}
    : (firstSeen ks).Perm (firstSeen js) ↔ ks.toFinset = js.toFinset := by
  rw [← toFinset_firstSeen ks, ← toFinset_firstSeen js]
  constructor
  . intro h
    exact List.toFinset_eq_of_perm _ _ h
  . exact List.perm_of_nodup_nodup_toFinset_eq (nodup_firstSeen ks) (nodup_firstSeen js)

end Firsts

section Places

variable {p q r : α → Bool} {xs : List α}

theorem findIdx_congr (h : ∀ x ∈ xs, p x = q x) : xs.findIdx p = xs.findIdx q := by
  induction xs with
  | nil => rfl
  | cons x xs ih =>
    rw [List.findIdx_cons, List.findIdx_cons, h x List.mem_cons_self,
      ih fun y hy => h y (List.mem_cons_of_mem x hy)]

theorem findIdx_lt_of_findIdx_filter_lt (hp : ∀ x ∈ xs, p x = true → r x = true)
    (hq : ∀ x ∈ xs, q x = true → r x = true)
    (h : (xs.filter r).findIdx p < (xs.filter r).findIdx q)
    : xs.findIdx p < xs.findIdx q := by
  induction xs with
  | nil => exact absurd h (Nat.lt_irrefl 0)
  | cons x xs ih =>
    have ih := ih (fun y hy => hp y (List.mem_cons_of_mem x hy))
      (fun y hy => hq y (List.mem_cons_of_mem x hy))
    have hpx := hp x List.mem_cons_self
    have hqx := hq x List.mem_cons_self
    by_cases hr : r x = true
    . rw [List.filter_cons_of_pos hr] at h
      rw [List.findIdx_cons, List.findIdx_cons] at h ⊢
      cases hqx' : q x with
      | true =>
        rw [hqx', cond_true] at h
        exact absurd h (Nat.not_lt_zero _)
      | false =>
        rw [hqx', cond_false] at h
        rw [cond_false]
        cases hpx' : p x with
        | true => exact Nat.succ_pos _
        | false =>
          rw [hpx', cond_false] at h
          exact Nat.succ_lt_succ (ih (Nat.lt_of_succ_lt_succ h))
    -- What is filtered out satisfies neither, so both places move on by one.
    . rw [List.filter_cons_of_neg hr] at h
      have hpx' : p x = false := Bool.eq_false_iff.2 fun hx => hr (hpx hx)
      have hqx' : q x = false := Bool.eq_false_iff.2 fun hx => hr (hqx hx)
      rw [List.findIdx_cons, List.findIdx_cons, hpx', hqx']
      exact Nat.succ_lt_succ (ih h)

theorem findIdx_key_cons_of_ne (key : α → κ) {x : α} {k : κ} (h : k ≠ key x) (xs : List α)
    : (x :: xs).findIdx (key · = k) = xs.findIdx (key · = k) + 1 := by
  rw [List.findIdx_cons, decide_eq_false h.symm, cond_false]

theorem pairwise_findIdx_firstSeen (key : α → κ) (xs : List α)
    : (firstSeen (xs.map key)).Pairwise fun j k =>
        xs.findIdx (key · = j) < xs.findIdx (key · = k) := by
  induction xs with
  | nil => exact List.Pairwise.nil
  | cons x xs ih =>
    rw [List.map_cons, firstSeen_cons, List.pairwise_cons]
    constructor
    . intro k hk
      have hne : k ≠ key x := by simpa using (List.mem_filter.1 hk).2
      rw [findIdx_key_cons_of_ne key hne, List.findIdx_cons, decide_eq_true rfl, cond_true]
      exact Nat.succ_pos _
    . rw [List.pairwise_filter]
      apply ih.imp
      intro j k hlt hj hk
      rw [findIdx_key_cons_of_ne key (by simpa using hj),
        findIdx_key_cons_of_ne key (by simpa using hk)]
      exact Nat.succ_lt_succ hlt

structure ListsFirstSeen (distinct ks : List κ) : Prop where
  nodup : distinct.Nodup
  mem : ∀ k, k ∈ distinct ↔ k ∈ ks
  inOrder : distinct.Pairwise fun j k => ks.findIdx (· = j) < ks.findIdx (· = k)

theorem listsFirstSeen_firstSeen (ks : List κ) : ListsFirstSeen (firstSeen ks) ks where
  nodup := nodup_firstSeen ks
  mem _ := mem_firstSeen
  inOrder := by
    have h := pairwise_findIdx_firstSeen id ks
    rw [List.map_id] at h
    exact h

end Places

section Sums

variable {M : Type} [AddCommMonoid M]

theorem sum_map_ite_eq {keys : List κ} (hkeys : keys.Nodup) (k : κ) (m : M)
    : (keys.map fun j => if k = j then m else 0).sum = if k ∈ keys then m else 0 := by
  induction keys with
  | nil => simp
  | cons j keys ih =>
    have ⟨hj, hkeys⟩ := List.nodup_cons.1 hkeys
    rw [List.map_cons, List.sum_cons, ih hkeys]
    by_cases h : k = j
    . subst h
      simp [hj]
    . simp [h]

theorem sum_map_filter_cons (p : α → Bool) (f : α → M) (x : α) (xs : List α)
    : (((x :: xs).filter p).map f).sum = (if p x then f x else 0) + ((xs.filter p).map f).sum := by
  by_cases h : p x <;> simp [h]

theorem sum_map_sum_filter_mem (key : α → κ) (f : α → M) {keys : List κ} (hkeys : keys.Nodup)
    (xs : List α)
    : (keys.map fun k => ((xs.filter (key · = k)).map f).sum).sum
        = ((xs.filter (key · ∈ keys)).map f).sum := by
  induction xs with
  | nil => simp
  | cons x xs ih =>
    simp only [sum_map_filter_cons, List.sum_map_add, decide_eq_true_eq]
    rw [ih, sum_map_ite_eq hkeys]

theorem sum_map_sum_filter (key : α → κ) (f : α → M) {keys : List κ} (hkeys : keys.Nodup)
    {xs : List α} (h : ∀ x ∈ xs, key x ∈ keys)
    : (keys.map fun k => ((xs.filter (key · = k)).map f).sum).sum = (xs.map f).sum := by
  rw [sum_map_sum_filter_mem key f hkeys, List.filter_eq_self.2]
  simpa using h

theorem sum_firstSeen (key : α → κ) (f : α → M) (xs : List α)
    : ((firstSeen (xs.map key)).map fun k => ((xs.filter (key · = k)).map f).sum).sum
        = (xs.map f).sum := by
  apply sum_map_sum_filter
  . apply nodup_firstSeen
  . intro x hx
    rw [mem_firstSeen]
    exact List.mem_map_of_mem hx

theorem sum_length_classes (key : α → κ) (xs : List α)
    : ((classes key xs).map (·.2.length)).sum = xs.length := by
  have h := sum_firstSeen key (fun _ => 1) xs
  simp only [List.map_const', List.sum_replicate_nat, Nat.mul_one] at h
  unfold classes
  rw [List.map_map]
  exact h

end Sums

end Footprint
