import Footprint.Proofs.Pairing
import Mathlib.Data.List.Forall2

namespace Footprint

variable {α : Type}

/-- Whether an error names the first key that repeats, in the earlier list if one repeats there. -/
inductive NamesRepeat (key : α → String) (before after : List α) : PairingError → Prop where
  | before {name : String} (isFirst : IsFirstRepeat name (before.map key))
    : NamesRepeat key before after (.duplicateName .before name)
  | after {name : String} (distinct : (before.map key).Nodup)
    (isFirst : IsFirstRepeat name (after.map key))
    : NamesRepeat key before after (.duplicateName .after name)

inductive IsPairOf (key : α → String) (after : List α) (b : α) : Diff α → Prop where
  | both {a : α} (mem : a ∈ after) (key_eq : key a = key b)
    (only : ∀ c ∈ after, key c = key b → c = a)
    : IsPairOf key after b (.both b a)
  | beforeOnly (absent : ∀ a ∈ after, key a ≠ key b) : IsPairOf key after b (.beforeOnly b)

structure IsPairing (key : α → String) (before after : List α) (pairs : List (Diff α))
    : Prop where
  inOrder : ∃ matched added, pairs = matched ++ added
    ∧ List.Forall₂ (IsPairOf key after) before matched
    ∧ added = (after.filter fun a => key a ∉ before.map key).map .afterOnly
  befores : pairs.filterMap Diff.before? = before
  afters : (pairs.filterMap Diff.after?).Perm after
  distinct : (pairs.map fun d => key d.either).Nodup
  keys (name : String)
    : name ∈ pairs.map (fun d => key d.either) ↔ name ∈ before.map key ∨ name ∈ after.map key

variable {key : α → String} {before after : List α} {pairs : List (Diff α)} {b : α} {d : Diff α}

theorem pairByKey_eq_error {e : PairingError}
    : pairByKey key before after = .error e ↔ NamesRepeat key before after e := by
  unfold pairByKey
  rw [Except.bind_eq_error, placesByKey_eq_error]
  constructor
  . rintro (⟨name, hname, rfl⟩ | ⟨_, hbefore, h⟩)
    . exact .before hname
    . rcases Except.bind_eq_error.1 h with hafter | ⟨_, _, h⟩
      . obtain ⟨name, hname, rfl⟩ := placesByKey_eq_error.1 hafter
        exact .after (holdsPlaces_of_placesByKey hbefore).nodup hname
      . cases h
  . rintro (hname | ⟨hdistinct, hname⟩)
    . exact .inl ⟨_, hname, rfl⟩
    . obtain ⟨places, hplaces⟩ := exists_placesByKey .before hdistinct
      right
      refine ⟨places, hplaces, Except.bind_eq_error.2 (.inl ?_)⟩
      exact placesByKey_eq_error.2 ⟨_, hname, rfl⟩

theorem isPairOf_iff (h : (after.map key).Nodup)
    : IsPairOf key after b d ↔ d = pairWith key after b := by
  unfold pairWith
  cases hfind : after.find? fun a => key a = key b with
  | none =>
    have habsent : ∀ a ∈ after, key a ≠ key b := by
      intro a ha hkey
      exact find?_key_eq_none_iff.1 hfind (hkey ▸ List.mem_map_of_mem ha)
    constructor
    . rintro (⟨hmem, hkey, _⟩ | _)
      . exact absurd hkey (habsent _ hmem)
      . rfl
    . rintro rfl
      exact .beforeOnly habsent
  | some a =>
    have ⟨hmem, hkey⟩ := (find?_key_eq_some_iff h).1 hfind
    constructor
    . rintro (⟨hmem', hkey', honly⟩ | habsent)
      . rw [honly a hmem hkey]
      . exact absurd hkey (habsent a hmem)
    . rintro rfl
      refine .both hmem hkey fun c hc hckey => ?_
      exact List.inj_on_of_nodup_map h hc hmem (hckey.trans hkey.symm)

theorem forall₂_isPairOf_iff (h : (after.map key).Nodup) {matched : List (Diff α)}
    : List.Forall₂ (IsPairOf key after) before matched
        ↔ matched = before.map (pairWith key after) := by
  have hpair : IsPairOf key after = fun b d => pairWith key after b = d := by
    funext b d
    exact propext ((isPairOf_iff h).trans eq_comm)
  rw [hpair, ← List.forall₂_map_left_iff, List.forall₂_eq_eq_eq, eq_comm]

theorem filterMap_before?_of_pairByKey (h : pairByKey key before after = .ok pairs)
    : pairs.filterMap Diff.before? = before := by
  have ⟨_, _, hpairs⟩ := pairByKey_eq_ok.1 h
  have hmatched : Diff.before? ∘ pairWith key after = some := by
    funext b
    unfold pairWith
    rw [Function.comp_apply]
    cases after.find? fun a => key a = key b <;> rfl
  have hadded : Diff.before? ∘ Diff.afterOnly = fun _ : α => none := rfl
  rw [hpairs, List.filterMap_append, List.filterMap_map, List.filterMap_map, hmatched, hadded]
  simp

theorem mem_keys_of_pairByKey (h : pairByKey key before after = .ok pairs) (name : String)
    : name ∈ pairs.map (fun d => key d.either) ↔ name ∈ before.map key ∨ name ∈ after.map key := by
  rw [keys_of_pairByKey h, List.mem_append, List.mem_filter]
  by_cases hname : name ∈ before.map key
  . simp only [hname, true_or]
  . simp only [hname, not_false_eq_true, decide_true, and_true]

theorem perm_filterMap_after?_of_pairByKey (h : pairByKey key before after = .ok pairs)
    : (pairs.filterMap Diff.after?).Perm after := by
  have hafter := (nodup_of_pairByKey h).2
  have hnodup : (pairs.filterMap Diff.after?).Nodup := by
    refine List.pairwise_filterMap.2 ?_
    have hkeys := List.pairwise_map.1 (nodup_keys_of_pairByKey h)
    refine hkeys.imp_of_mem fun {d d'} hd hd' hne a ha a' ha' => ?_
    rw [(sides_of_mem h hd).2] at ha
    rw [(sides_of_mem h hd').2] at ha'
    rintro rfl
    have hkey := ((find?_key_eq_some_iff hafter).1 ha).2
    have hkey' := ((find?_key_eq_some_iff hafter).1 ha').2
    exact hne (hkey.symm.trans hkey')
  rw [List.perm_ext_iff_of_nodup hnodup hafter.of_map]
  intro a
  rw [List.mem_filterMap]
  constructor
  . rintro ⟨d, hd, ha⟩
    rw [(sides_of_mem h hd).2] at ha
    exact List.mem_of_find?_eq_some ha
  . intro ha
    have hname := (mem_keys_of_pairByKey h (key a)).2 (.inr (List.mem_map_of_mem ha))
    obtain ⟨d, hd, hkey⟩ := List.mem_map.1 hname
    refine ⟨d, hd, ?_⟩
    rw [(sides_of_mem h hd).2, hkey]
    exact (find?_key_eq_some_iff hafter).2 ⟨ha, rfl⟩

theorem isPairing_of_pairByKey (h : pairByKey key before after = .ok pairs)
    : IsPairing key before after pairs where
  inOrder := by
    have ⟨_, hafter, hpairs⟩ := pairByKey_eq_ok.1 h
    exact ⟨_, _, hpairs, (forall₂_isPairOf_iff hafter).2 rfl, rfl⟩
  befores := filterMap_before?_of_pairByKey h
  afters := perm_filterMap_after?_of_pairByKey h
  distinct := nodup_keys_of_pairByKey h
  keys := mem_keys_of_pairByKey h

theorem pairByKey_pairs_unless_repeated (key : α → String) (before after : List α)
    : ((∃ pairs, pairByKey key before after = .ok pairs)
        ↔ (before.map key).Nodup ∧ (after.map key).Nodup)
      ∧ (∀ e, pairByKey key before after = .error e ↔ NamesRepeat key before after e)
      ∧ ∀ pairs, pairByKey key before after = .ok pairs
          ↔ (before.map key).Nodup ∧ (after.map key).Nodup
            ∧ IsPairing key before after pairs := by
  refine ⟨?_, fun e => pairByKey_eq_error, ?_⟩
  . constructor
    . rintro ⟨pairs, h⟩
      exact nodup_of_pairByKey h
    . rintro ⟨hbefore, hafter⟩
      exact ⟨_, pairByKey_of_nodup hbefore hafter⟩
  . intro pairs
    constructor
    . intro h
      have ⟨hbefore, hafter⟩ := nodup_of_pairByKey h
      exact ⟨hbefore, hafter, isPairing_of_pairByKey h⟩
    . rintro ⟨hbefore, hafter, hpairs⟩
      obtain ⟨matched, added, rfl, hmatched, rfl⟩ := hpairs.inOrder
      rw [forall₂_isPairOf_iff hafter] at hmatched
      exact pairByKey_eq_ok.2 ⟨hbefore, hafter, by rw [hmatched]⟩

end Footprint
