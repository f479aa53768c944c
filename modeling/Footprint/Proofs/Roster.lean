import Footprint.Proofs.FirstSeen
import Footprint.Roster

namespace Footprint
namespace Roster

variable {κ α M : Type}

variable [DecidableEq κ]

theorem find?_empty (k : κ) : (empty : Roster κ α).find? k = none := by
  rfl

theorem lookup_put (k j : κ) (a : α) (es : List (κ × α))
    : (put k a es).lookup j = if j = k then some a else es.lookup j := by
  induction es with
  | nil =>
    by_cases h : j = k
    . simp [put, h]
    . have hne : (j == k) = false := by simp [h]
      simp [put, List.lookup_cons, hne, h]
  | cons e es ih =>
    obtain ⟨i, b⟩ := e
    unfold put
    by_cases hk : i = k
    . subst hk
      by_cases hj : j = i
      . simp [hj]
      . have hne : (j == i) = false := by simp [hj]
        simp [List.lookup_cons, hne, hj]
    . by_cases hj : j = i
      . subst hj
        simp [hk]
      . have hne : (j == i) = false := by simp [hj]
        simp only [hk, ↓reduceIte, List.lookup_cons, hne, ih]

theorem find?_insert (r : Roster κ α) (k j : κ) (a : α)
    : (r.insert k a).find? j = if j = k then some a else r.find? j := by
  apply lookup_put

theorem put_put (k : κ) (a b : α) (es : List (κ × α)) : put k b (put k a es) = put k b es := by
  induction es with
  | nil => simp [put]
  | cons e es ih =>
    by_cases h : e.1 = k
    . simp [put, h]
    . simp [put, h, ih]

theorem insert_insert (r : Roster κ α) (k : κ) (a b : α)
    : (r.insert k a).insert k b = r.insert k b := by
  unfold insert
  simp only [put_put]

theorem keys_insert (r : Roster κ α) (k : κ) (a : α)
    : (r.insert k a).keys = if k ∈ r.keys then r.keys else r.keys ++ [k] := by
  apply keys_put

theorem keys_insert_of_firstSeen {r : Roster κ α} {ks : List κ} (h : r.keys = firstSeen ks)
    (k : κ) (a : α)
    : (r.insert k a).keys = firstSeen (ks ++ [k]) := by
  rw [keys_insert, firstSeen_append_singleton, h]
  simp only [mem_firstSeen]

theorem lookup_eq_some_iff {es : List (κ × α)} (h : (es.map Prod.fst).Nodup) {k : κ} {a : α}
    : es.lookup k = some a ↔ (k, a) ∈ es := by
  induction es with
  | nil => simp
  | cons e es ih =>
    have ⟨hmem, hnodup⟩ := List.nodup_cons.1 h
    obtain ⟨j, b⟩ := e
    by_cases hk : k = j
    . subst hk
      have hnot : (k, a) ∉ es := by
        intro hin
        exact hmem (List.mem_map.2 ⟨_, hin, rfl⟩)
      simp only [List.lookup_cons, beq_self_eq_true, Option.some.injEq, List.mem_cons,
        Prod.mk.injEq, true_and, hnot, or_false]
      constructor
      . exact Eq.symm
      . exact Eq.symm
    . have hne : (k == j) = false := by simp [hk]
      simp [List.lookup_cons, hne, ih hnodup, hk]

theorem find?_eq_some_iff {r : Roster κ α} {k : κ} {a : α}
    : r.find? k = some a ↔ (k, a) ∈ r.entries := by
  apply lookup_eq_some_iff
  exact r.distinct

theorem find?_isSome_iff {r : Roster κ α} {k : κ} : (r.find? k).isSome ↔ k ∈ r.keys := by
  rw [Option.isSome_iff_exists]
  unfold keys
  simp only [find?_eq_some_iff, List.mem_map, Prod.exists, exists_and_right, exists_eq_right]

theorem find?_eq_none_iff {r : Roster κ α} {k : κ} : r.find? k = none ↔ k ∉ r.keys := by
  rw [← find?_isSome_iff, Option.not_isSome_iff_eq_none]

theorem mem_values_iff {r : Roster κ α} {a : α} : a ∈ r.values ↔ ∃ k, r.find? k = some a := by
  unfold values
  simp only [find?_eq_some_iff, List.mem_map, Prod.exists, exists_eq_right]

theorem values_eq_filterMap (r : Roster κ α) : r.values = r.keys.filterMap r.find? := by
  have h : ∀ e ∈ r.entries, r.find? e.1 = some e.2 := by
    intro e he
    rw [find?_eq_some_iff]
    exact he
  unfold values keys
  rw [List.filterMap_map]
  generalize r.entries = es at h
  induction es with
  | nil => rfl
  | cons e es ih =>
    have hhead : (r.find? ∘ Prod.fst) e = some e.2 := h e List.mem_cons_self
    rw [List.filterMap_cons_some hhead, List.map_cons]
    rw [ih fun e he => h e (List.mem_cons_of_mem _ he)]

theorem entries_eq_map (r : Roster κ α) (a : α)
    : r.entries = r.keys.map fun k => (k, (r.find? k).getD a) := by
  have hentry : ∀ e ∈ r.entries, (e.1, (r.find? e.1).getD a) = e := by
    intro e he
    rw [find?_eq_some_iff.2 he, Option.getD_some]
  unfold keys
  rw [List.map_map]
  exact ((List.map_congr_left hentry).trans (List.map_id' _)).symm

theorem eq_of_keys_of_getD {r t : Roster κ α} (a : α) (hkeys : r.keys = t.keys)
    (h : ∀ k, (r.find? k).getD a = (t.find? k).getD a)
    : r = t := by
  have hentries : r.entries = t.entries := by
    rw [r.entries_eq_map a, t.entries_eq_map a, hkeys]
    simp only [h]
  cases r
  cases t
  cases hentries
  rfl

theorem find?_map {β : Type} (f : α → β) (r : Roster κ α) (k : κ)
    : (r.map f).find? k = (r.find? k).map f := by
  unfold find? map
  dsimp only
  induction r.entries with
  | nil => rfl
  | cons e es ih =>
    rw [List.map_cons, List.lookup_cons, List.lookup_cons, ih]
    cases k == e.1 <;> rfl

section Sums

variable [AddCommMonoid M]

theorem sum_filter_put (among : κ → Bool) (k : κ) (m : M) (es : List (κ × M))
    : (((put k ((es.lookup k).getD 0 + m) es).filter (among ·.1)).map Prod.snd).sum
        = ((es.filter (among ·.1)).map Prod.snd).sum + if among k then m else 0 := by
  induction es with
  | nil => by_cases h : among k <;> simp [put, h]
  | cons e es ih =>
    obtain ⟨j, b⟩ := e
    by_cases h : j = k
    . subst h
      simp only [put, ↓reduceIte, List.lookup_cons, beq_self_eq_true, Option.getD_some,
        sum_map_filter_cons]
      by_cases hj : among j
      . simp only [hj, ↓reduceIte]
        exact add_right_comm b m _
      . simp [hj]
    . have hne : (k == j) = false := by
        simp only [beq_eq_false_iff_ne, ne_eq]
        exact fun hk => h hk.symm
      simp only [put, h, ↓reduceIte, List.lookup_cons, hne, sum_map_filter_cons, ih, add_assoc]

theorem getD_lookup_eq_sum {es : List (κ × M)} (h : (es.map Prod.fst).Nodup) (k : κ)
    : (es.lookup k).getD 0 = ((es.filter (·.1 = k)).map Prod.snd).sum := by
  induction es with
  | nil => simp
  | cons e es ih =>
    have ⟨hmem, hnodup⟩ := List.nodup_cons.1 h
    obtain ⟨j, b⟩ := e
    rw [sum_map_filter_cons, List.lookup_cons]
    by_cases hk : j = k
    . have hnil : es.filter (·.1 = k) = [] := by
        rw [List.filter_eq_nil_iff]
        intro d hd
        simp only [decide_eq_true_eq]
        intro hdk
        exact hmem (List.mem_map.2 ⟨d, hd, hdk.trans hk.symm⟩)
      simp [hk, hnil]
    . have hne : (k == j) = false := by
        simp only [beq_eq_false_iff_ne, ne_eq]
        exact fun h => hk h.symm
      simp [hk, hne, ih hnodup]

theorem getD_find?_eq_sum (r : Roster κ M) (k : κ)
    : (r.find? k).getD 0 = ((r.entries.filter (·.1 = k)).map Prod.snd).sum := by
  apply getD_lookup_eq_sum
  exact r.distinct

theorem elim_find?_eq_sum (f : α → M) (r : Roster κ α) (k : κ)
    : (r.find? k).elim 0 f = ((r.entries.filter (·.1 = k)).map fun e => f e.2).sum := by
  have h := getD_find?_eq_sum (r.map f) k
  unfold map at h
  rw [List.filter_map, List.map_map] at h
  rw [← Function.comp_def f Prod.snd]
  refine Eq.trans ?_ h
  show _ = ((r.map f).find? k).getD 0
  rw [find?_map]
  cases r.find? k <;> rfl

theorem sum_elim_find? (f : α → M) (r : Roster κ α) {keys : List κ} (hkeys : keys.Nodup)
    (h : ∀ k, k ∉ keys → (r.find? k).elim 0 f = 0)
    : (keys.map fun k => (r.find? k).elim 0 f).sum = (r.values.map f).sum := by
  have hrest : ((r.entries.filter (·.1 ∉ keys)).map fun e => f e.2).sum = 0 := by
    apply List.sum_eq_zero
    intro m hm
    obtain ⟨e, he, rfl⟩ := List.mem_map.1 hm
    have ⟨hmem, hkey⟩ := List.mem_filter.1 he
    have hzero := h e.1 (of_decide_eq_true hkey)
    rw [find?_eq_some_iff.2 hmem] at hzero
    exact hzero
  have hsplit := List.sum_map_filter_add_sum_map_filter_not (·.1 ∈ keys) (fun e => f e.2) r.entries
  rw [hrest, add_zero] at hsplit
  simp only [elim_find?_eq_sum]
  rw [sum_map_sum_filter_mem Prod.fst (fun e => f e.2) hkeys, hsplit]
  unfold values
  rw [List.map_map]
  rfl

end Sums

end Roster
end Footprint
