import Footprint.Contributions.Compare
import Footprint.Proofs.Pairing.Slots
import Footprint.Proofs.Quantity
import Mathlib.Data.List.Induction

namespace Footprint

variable {α β : Type}

namespace Diff

variable {before after : Option α} {d : Diff α}

def sides : Diff α → List α
  | beforeOnly before => [before]
  | afterOnly after => [after]
  | both before after => [before, after]

theorem mem_sides {v : α} : v ∈ d.sides ↔ d.before? = some v ∨ d.after? = some v := by
  cases d <;> simp [sides, before?, after?, eq_comm]

theorem ofSides?_eq_some
    : ofSides? before after = some d ↔ d.before? = before ∧ d.after? = after := by
  cases before with
  | none => cases after <;> cases d <;> simp [ofSides?, before?, after?, eq_comm]
  | some b => cases after <;> cases d <;> simp [ofSides?, before?, after?, eq_comm]

theorem isSome_ofSides? : (ofSides? before after).isSome ↔ before.isSome ∨ after.isSome := by
  cases before <;> cases after <;> simp [ofSides?]

theorem elim_deltaBy_ofSides? (quantity : α → Nat) (before after : Option α)
    : (ofSides? before after).elim 0 (deltaBy quantity)
        = Quantity.delta (before.elim 0 quantity) (after.elim 0 quantity) := by
  cases before with
  | none => cases after <;> rfl
  | some b => cases after <;> rfl

theorem before?_map (f : α → β) (d : Diff α) : (d.map f).before? = d.before?.map f := by
  cases d <;> rfl

theorem after?_map (f : α → β) (d : Diff α) : (d.map f).after? = d.after?.map f := by
  cases d <;> rfl

theorem either_map (f : α → β) (d : Diff α) : (d.map f).either = f d.either := by
  cases d <;> rfl

theorem map_ofSides? (f : α → β) (before after : Option α)
    : (ofSides? before after).map (·.map f) = ofSides? (before.map f) (after.map f) := by
  cases before <;> cases after <;> rfl

end Diff

section Lists

variable {key : α → String} {before after : List α} {pairs : List (Diff α)}

theorem either_pairWith (key : α → String) (after : List α) (b : α)
    : (pairWith key after b).either = b := by
  unfold pairWith
  cases after.find? fun a => key a = key b <;> rfl

theorem pairWith_eq_ofSides? {b : α} {name : String} (h : key b = name)
    : some (pairWith key after b) = Diff.ofSides? (some b) (after.find? (key · = name)) := by
  subst h
  unfold pairWith
  cases after.find? fun a => key a = key b <;> rfl

theorem pairByKey_of_nodup (hbefore : (before.map key).Nodup) (hafter : (after.map key).Nodup)
    : pairByKey key before after
        = .ok (before.map (pairWith key after)
            ++ (after.filter fun a => key a ∉ before.map key).map .afterOnly) := by
  obtain ⟨_, hplacesBefore⟩ := exists_placesByKey .before hbefore
  obtain ⟨places, hplaces⟩ := exists_placesByKey .after hafter
  have hslots : pairSlots key places before (slotsWithout key [] after) = _ :=
    pairSlots_slotsWithout (holdsPlaces_of_placesByKey hplaces) hbefore
  rw [slotsWithout_nil, List.nil_append] at hslots
  unfold pairByKey
  rw [hplacesBefore, Except.ok_bind, hplaces, Except.ok_bind, hslots]
  dsimp only
  rw [filterMap_slotsWithout]
  rfl

theorem nodup_of_pairByKey (h : pairByKey key before after = .ok pairs)
    : (before.map key).Nodup ∧ (after.map key).Nodup := by
  unfold pairByKey at h
  obtain ⟨_, hbefore, h⟩ := Except.bind_eq_ok.1 h
  obtain ⟨_, hafter, _⟩ := Except.bind_eq_ok.1 h
  exact ⟨(holdsPlaces_of_placesByKey hbefore).nodup, (holdsPlaces_of_placesByKey hafter).nodup⟩

theorem pairByKey_eq_ok
    : pairByKey key before after = .ok pairs
        ↔ (before.map key).Nodup ∧ (after.map key).Nodup
          ∧ pairs = before.map (pairWith key after)
            ++ (after.filter fun a => key a ∉ before.map key).map .afterOnly := by
  constructor
  . intro h
    have ⟨hbefore, hafter⟩ := nodup_of_pairByKey h
    rw [pairByKey_of_nodup hbefore hafter] at h
    exact ⟨hbefore, hafter, (Except.ok.inj h).symm⟩
  . rintro ⟨hbefore, hafter, rfl⟩
    exact pairByKey_of_nodup hbefore hafter

theorem find?_matched (name : String)
    : (before.map (pairWith key after)).find? (fun d => key d.either = name)
        = (before.find? (key · = name)).bind fun b =>
          Diff.ofSides? (some b) (after.find? (key · = name)) := by
  rw [List.find?_map]
  have heither : (fun d : Diff α => decide (key d.either = name)) ∘ pairWith key after
      = (key · = name) := by
    funext b
    rw [Function.comp_apply, either_pairWith]
  rw [heither]
  cases hfind : before.find? (key · = name) with
  | none => rfl
  | some b =>
    have hname := List.find?_some hfind
    simp only [decide_eq_true_eq] at hname
    rw [Option.map_some, Option.bind_some, pairWith_eq_ofSides? hname]

theorem find?_added {keys : List String} {name : String} (h : name ∉ keys)
    : ((after.filter fun a => key a ∉ keys).map Diff.afterOnly).find?
          (fun d => key d.either = name)
        = (after.find? (key · = name)).map .afterOnly := by
  rw [List.find?_map, List.find?_filter]
  congr 2
  funext a
  simp only [Function.comp_apply, Diff.either]
  grind

theorem find?_of_pairByKey (h : pairByKey key before after = .ok pairs) (name : String)
    : (pairs.find? fun d => key d.either = name)
        = Diff.ofSides? (before.find? (key · = name)) (after.find? (key · = name)) := by
  have ⟨_, _, hpairs⟩ := pairByKey_eq_ok.1 h
  rw [hpairs, List.find?_append, find?_matched]
  cases hbefore : before.find? (key · = name) with
  | some b =>
    rw [Option.bind_some, Option.or_of_isSome]
    rw [Diff.isSome_ofSides?]
    exact .inl rfl
  | none =>
    have hnot := find?_key_eq_none_iff.1 hbefore
    rw [Option.bind_none, Option.none_or, find?_added hnot]
    cases after.find? (key · = name) <;> rfl

theorem keys_of_pairByKey (h : pairByKey key before after = .ok pairs)
    : pairs.map (fun d => key d.either)
        = before.map key ++ (after.map key).filter (· ∉ before.map key) := by
  have ⟨_, _, hpairs⟩ := pairByKey_eq_ok.1 h
  rw [hpairs, List.map_append, List.map_map, List.map_map, List.filter_map]
  congr 1
  apply List.map_congr_left
  intro b _
  rw [Function.comp_apply, either_pairWith]

theorem nodup_keys_of_pairByKey (h : pairByKey key before after = .ok pairs)
    : (pairs.map fun d => key d.either).Nodup := by
  have ⟨hbefore, hafter, _⟩ := pairByKey_eq_ok.1 h
  rw [keys_of_pairByKey h, List.nodup_append]
  refine ⟨hbefore, hafter.filter _, ?_⟩
  rintro k hk j hj rfl
  have hnew := (List.mem_filter.1 hj).2
  simp only [decide_eq_true_eq] at hnew
  exact hnew hk

theorem sides_of_mem (h : pairByKey key before after = .ok pairs) {d : Diff α} (hd : d ∈ pairs)
    : d.before? = before.find? (key · = key d.either)
      ∧ d.after? = after.find? (key · = key d.either) := by
  have hfind := (find?_key_eq_some_iff (nodup_keys_of_pairByKey h)).2 ⟨hd, rfl⟩
  rw [find?_of_pairByKey h] at hfind
  exact Diff.ofSides?_eq_some.1 hfind

theorem mem_of_mem_sides (h : pairByKey key before after = .ok pairs) {d : Diff α}
    (hd : d ∈ pairs) {v : α} (hv : v ∈ d.sides)
    : v ∈ before ∨ v ∈ after := by
  have ⟨hbefore, hafter⟩ := sides_of_mem h hd
  rw [Diff.mem_sides, hbefore, hafter] at hv
  exact hv.imp List.mem_of_find?_eq_some List.mem_of_find?_eq_some

end Lists

namespace Roster

variable {κ : Type} [DecidableEq κ]

theorem lookup_map_pairEntry (after : Roster κ α) (entries : List (κ × α)) (k : κ)
    : (entries.map (pairEntry after)).lookup k
        = (entries.lookup k).bind fun b => Diff.ofSides? (some b) (after.find? k) := by
  induction entries with
  | nil => rfl
  | cons e entries ih =>
    rw [List.map_cons]
    unfold pairEntry
    by_cases hk : k = e.1
    . subst hk
      rw [List.lookup_cons_self]
      obtain ⟨j, b⟩ := e
      rw [List.lookup_cons_self]
      cases after.find? j <;> rfl
    . obtain ⟨j, b⟩ := e
      have hne : (k == j) = false := beq_eq_false_iff_ne.2 hk
      simp only [List.lookup_cons, hne]
      exact ih

theorem lookup_added {keys : List κ} {k : κ} (h : k ∉ keys) (entries : List (κ × α))
    : ((entries.filter (·.1 ∉ keys)).map fun e => (e.1, Diff.afterOnly e.2)).lookup k
        = (entries.lookup k).map .afterOnly := by
  induction entries with
  | nil => rfl
  | cons e entries ih =>
    obtain ⟨j, b⟩ := e
    by_cases hk : k = j
    . subst hk
      simp [h]
    . have hne : (k == j) = false := beq_eq_false_iff_ne.2 hk
      rw [List.lookup_cons, hne, List.filter_cons]
      dsimp only
      split
      . rw [List.map_cons, List.lookup_cons, hne]
        exact ih
      . exact ih

theorem find?_pair (before after : Roster κ α) (k : κ)
    : (before.pair after).find? k = Diff.ofSides? (before.find? k) (after.find? k) := by
  show List.lookup k (before.entries.map (pairEntry after) ++ _) = _
  rw [List.lookup_append, lookup_map_pairEntry]
  show ((before.find? k).bind _).or _ = _
  cases hbefore : before.find? k with
  | some b =>
    rw [Option.bind_some, Option.or_of_isSome]
    rw [Diff.isSome_ofSides?]
    exact .inl rfl
  | none =>
    rw [find?_eq_none_iff] at hbefore
    rw [Option.bind_none, Option.none_or, lookup_added hbefore]
    show (after.find? k).map _ = _
    cases after.find? k <;> rfl

theorem put_of_not_mem {k : κ} {es : List (κ × α)} (h : k ∉ es.map Prod.fst) (a : α)
    : put k a es = es ++ [(k, a)] := by
  induction es with
  | nil => rfl
  | cons e es ih =>
    rw [List.map_cons, List.mem_cons, not_or] at h
    unfold put
    rw [if_neg (Ne.symm h.1), ih h.2]
    rfl

theorem entries_ofList {es : List (κ × α)} (h : (es.map Prod.fst).Nodup)
    : (ofList es).entries = es := by
  induction es using List.reverseRecOn with
  | nil => rfl
  | append_singleton es e ih =>
    rw [List.map_append, List.nodup_append] at h
    obtain ⟨hes, _, hdisjoint⟩ := h
    have hnot : e.1 ∉ es.map Prod.fst := fun hmem => hdisjoint e.1 hmem e.1 (by simp) rfl
    unfold ofList
    rw [List.foldl_append]
    show put e.1 e.2 (ofList es).entries = _
    rw [ih hes, put_of_not_mem hnot]

theorem lookup_map_key (key : α → κ) (xs : List α) (k : κ)
    : (xs.map fun x => (key x, x)).lookup k = xs.find? (key · = k) := by
  induction xs with
  | nil => rfl
  | cons x xs ih =>
    rw [List.map_cons, List.lookup_cons, List.find?_cons, ih]
    by_cases hk : key x = k
    . simp [hk]
    . have hne : (k == key x) = false := beq_eq_false_iff_ne.2 (Ne.symm hk)
      simp [hk, hne]

theorem entries_ofList_map {key : α → κ} {xs : List α} (h : (xs.map key).Nodup)
    : (ofList (xs.map fun x => (key x, x))).entries = xs.map fun x => (key x, x) := by
  apply entries_ofList
  rw [List.map_map]
  exact h

theorem find?_ofList_map {key : α → κ} {xs : List α} (h : (xs.map key).Nodup) (k : κ)
    : (ofList (xs.map fun x => (key x, x))).find? k = xs.find? (key · = k) := by
  unfold find?
  rw [entries_ofList_map h, lookup_map_key]

section Sums

variable {M : Type} [AddCommMonoid M] (f : α → M) (before after : Roster κ α)

theorem sum_before_pair
    : ((before.pair after).values.map fun d => d.before?.elim 0 f).sum
        = (before.values.map f).sum := by
  have hadded : ((after.entries.filter (·.1 ∉ before.keys)).map
      fun e => (Diff.afterOnly e.2).before?.elim 0 f).sum = 0 := by
    apply List.sum_eq_zero
    intro m hm
    obtain ⟨_, _, rfl⟩ := List.mem_map.1 hm
    rfl
  have hmatched (e : κ × α) : (pairEntry after e).2.before?.elim 0 f = f e.2 := by
    unfold pairEntry
    cases after.find? e.1 <;> rfl
  unfold values pair
  simp only [List.map_append, List.map_map, List.sum_append, Function.comp_def, hmatched]
  rw [hadded, add_zero]

theorem sum_after_pair
    : ((before.pair after).values.map fun d => d.after?.elim 0 f).sum
        = (after.values.map f).sum := by
  -- The later roster is split up into what is found under the earlier keys and what is added.
  have hmatched (e : κ × α) : (pairEntry after e).2.after?.elim 0 f
      = ((after.entries.filter (·.1 = e.1)).map fun e => f e.2).sum := by
    rw [← elim_find?_eq_sum]
    unfold pairEntry
    cases after.find? e.1 <;> rfl
  have hkeys : before.keys.Nodup := before.distinct
  have hsplit := ((List.filter_append_perm (·.1 ∈ before.keys) after.entries).map
    fun e => f e.2).sum_eq
  rw [List.map_append, List.sum_append, ← sum_map_sum_filter_mem Prod.fst _ hkeys] at hsplit
  have hadded : after.entries.filter (·.1 ∉ before.keys)
      = after.entries.filter fun e => !decide (e.1 ∈ before.keys) := by
    apply List.filter_congr
    simp
  unfold values pair
  simp only [List.map_append, List.map_map, List.sum_append, Function.comp_def, hmatched]
  rw [hadded]
  simp only [keys, List.map_map, Function.comp_def] at hsplit ⊢
  exact hsplit

end Sums

end Roster

structure SidesAddUp (diffs : List (Diff α)) (before after : List α) : Prop where
  before : ∀ quantity : α → Nat,
    (diffs.map fun d => d.before?.elim 0 quantity).sum = (before.map quantity).sum
  after : ∀ quantity : α → Nat,
    (diffs.map fun d => d.after?.elim 0 quantity).sum = (after.map quantity).sum

namespace SidesAddUp

variable {diffs : List (Diff α)} {before after : List α}

theorem map (h : SidesAddUp diffs before after) (f : α → β)
    : SidesAddUp (diffs.map (·.map f)) (before.map f) (after.map f) where
  before quantity := by
    simp only [List.map_map, Function.comp_def, Diff.before?_map, Option.elim_map]
    exact h.before fun v => quantity (f v)
  after quantity := by
    simp only [List.map_map, Function.comp_def, Diff.after?_map, Option.elim_map]
    exact h.after fun v => quantity (f v)

theorem sum_deltaBy (h : SidesAddUp diffs before after) (quantity : α → Nat)
    (hbefore : (before.map quantity).sum ≤ maxSigned)
    (hafter : (after.map quantity).sum ≤ maxSigned)
    : (diffs.map (Diff.deltaBy quantity)).sum
        = ((after.map quantity).sum : Int) - (before.map quantity).sum := by
  rw [← h.before] at hbefore ⊢
  rw [← h.after] at hafter ⊢
  exact Quantity.sum_delta _ _ diffs hbefore hafter

theorem signedTotal_deltaBy (h : SidesAddUp diffs before after) (quantity : α → Nat)
    (hbefore : (before.map quantity).sum ≤ maxSigned)
    (hafter : (after.map quantity).sum ≤ maxSigned)
    : Quantity.signedTotal (diffs.map (Diff.deltaBy quantity))
        = ((after.map quantity).sum : Int) - (before.map quantity).sum := by
  rw [← h.before] at hbefore ⊢
  rw [← h.after] at hafter ⊢
  exact Quantity.signedTotal_delta _ _ diffs hbefore hafter

end SidesAddUp

section Lists

variable {key : α → String} {before after : List α} {pairs : List (Diff α)}

theorem Roster.values_ofList_map {xs : List α} (h : (xs.map key).Nodup)
    : (ofList (xs.map fun x => (key x, x))).values = xs := by
  unfold values
  rw [entries_ofList_map h, List.map_map]
  exact List.map_id xs

theorem values_pair_of_pairByKey (h : pairByKey key before after = .ok pairs)
    : ((Roster.ofList (before.map fun b => (key b, b))).pair
        (Roster.ofList (after.map fun a => (key a, a)))).values = pairs := by
  have ⟨hbefore, hafter, hpairs⟩ := pairByKey_eq_ok.1 h
  unfold Roster.values Roster.pair Roster.keys
  dsimp only
  rw [Roster.entries_ofList_map hbefore, Roster.entries_ofList_map hafter, hpairs, List.map_append]
  congr 1
  . rw [List.map_map, List.map_map]
    apply List.map_congr_left
    intro b _
    show (Roster.pairEntry (Roster.ofList (after.map fun a => (key a, a))) (key b, b)).2 = _
    unfold Roster.pairEntry
    dsimp only
    rw [Roster.find?_ofList_map hafter]
    rfl
  . rw [List.filter_map, List.map_map, List.map_map, List.map_map]
    rfl

theorem sidesAddUp_of_pairByKey (h : pairByKey key before after = .ok pairs)
    : SidesAddUp pairs before after := by
  have ⟨hbefore, hafter, _⟩ := pairByKey_eq_ok.1 h
  rw [← values_pair_of_pairByKey h]
  constructor
  . intro quantity
    rw [Roster.sum_before_pair, Roster.values_ofList_map hbefore]
  . intro quantity
    rw [Roster.sum_after_pair, Roster.values_ofList_map hafter]

end Lists

end Footprint
