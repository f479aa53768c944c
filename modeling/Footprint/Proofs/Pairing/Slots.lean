import Footprint.Diff
import Footprint.Proofs.Except
import Footprint.Proofs.Roster

namespace Footprint

variable {α : Type}

def IsFirstRepeat (key : String) (keys : List String) : Prop :=
  ∃ earlier later, keys = earlier ++ key :: later ∧ earlier.Nodup ∧ key ∈ earlier

section Repeats

variable {key other : String} {keys : List String}

theorem IsFirstRepeat.not_nodup (h : IsFirstRepeat key keys) : ¬keys.Nodup := by
  obtain ⟨earlier, later, rfl, _, hmem⟩ := h
  intro hnodup
  exact (List.nodup_append.1 hnodup).2.2 key hmem key List.mem_cons_self rfl

theorem IsFirstRepeat.unique (h : IsFirstRepeat key keys) (hother : IsFirstRepeat other keys)
    : key = other := by
  obtain ⟨earlier, later, rfl, hnodup, hmem⟩ := h
  obtain ⟨earlier', later', heq, hnodup', hmem'⟩ := hother
  -- The shorter of the two beginnings, together with its repeat, lies inside the longer one.
  rw [List.append_eq_append_iff] at heq
  rcases heq with ⟨middle, rfl, hmiddle⟩ | ⟨middle, rfl, hmiddle⟩
  . cases middle with
    | nil => exact (List.cons.inj hmiddle).1
    | cons first middle =>
      obtain rfl := (List.cons.inj hmiddle).1
      exact absurd rfl ((List.nodup_append.1 hnodup').2.2 key hmem key List.mem_cons_self)
  . cases middle with
    | nil => exact (List.cons.inj hmiddle).1.symm
    | cons first middle =>
      obtain rfl := (List.cons.inj hmiddle).1
      exact absurd rfl ((List.nodup_append.1 hnodup).2.2 other hmem' other List.mem_cons_self)

end Repeats

section Places

variable {side : Side} {places : Roster String Nat} {keys earlier : List String}

structure HoldsPlaces (places : Roster String Nat) (keys : List String) : Prop where
  keys_eq : places.keys = keys
  find_eq (key : String) (place : Nat) : places.find? key = some place ↔ keys[place]? = some key

theorem HoldsPlaces.nodup (h : HoldsPlaces places keys) : keys.Nodup := by
  rw [← h.keys_eq]
  exact places.distinct

theorem holdsPlaces_insert (h : HoldsPlaces places earlier) {key : String} (hnew : key ∉ earlier)
    : HoldsPlaces (places.insert key earlier.length) (earlier ++ [key]) where
  keys_eq := by
    rw [Roster.keys_insert, h.keys_eq, if_neg hnew]
  find_eq other place := by
    have hnone : earlier[place]? ≠ some key := by
      intro hplace
      exact hnew (List.mem_of_getElem? hplace)
    have hplace := h.find_eq other place
    rw [Roster.find?_insert]
    grind

theorem foldlM_addPlace (side : Side) (h : HoldsPlaces places earlier) (keys : List String)
    : (∃ all, (keys.zipIdx earlier.length).foldlM (addPlace side) places = .ok all
        ∧ HoldsPlaces all (earlier ++ keys))
      ∨ ∃ key, (keys.zipIdx earlier.length).foldlM (addPlace side) places
          = .error (.duplicateName side key)
        ∧ IsFirstRepeat key (earlier ++ keys) := by
  -- The places given so far are those of the keys before, none of which repeats.
  induction keys generalizing places earlier with
  | nil =>
    left
    rw [List.append_nil]
    exact ⟨places, rfl, h⟩
  | cons key keys ih =>
    rw [List.zipIdx_cons, List.foldlM_cons]
    by_cases hrepeat : key ∈ earlier
    . right
      have hstep : addPlace side places (key, earlier.length)
          = .error (.duplicateName side key) := by
        unfold addPlace
        rw [if_pos (h.keys_eq ▸ hrepeat)]
      rw [hstep]
      exact ⟨key, rfl, earlier, keys, rfl, h.nodup, hrepeat⟩
    . have hstep : addPlace side places (key, earlier.length)
          = .ok (places.insert key earlier.length) := by
        unfold addPlace
        rw [if_neg (h.keys_eq ▸ hrepeat)]
      have hrest := ih (holdsPlaces_insert h hrepeat)
      rw [List.length_append, List.length_singleton, List.append_assoc] at hrest
      rw [hstep, Except.ok_bind]
      exact hrest

theorem placesByKey_cases (side : Side) (keys : List String)
    : (∃ places, placesByKey side keys = .ok places ∧ HoldsPlaces places keys)
      ∨ ∃ key, placesByKey side keys = .error (.duplicateName side key)
        ∧ IsFirstRepeat key keys := by
  have hempty : HoldsPlaces .empty [] := ⟨rfl, fun _ _ => by simp [Roster.find?_empty]⟩
  exact foldlM_addPlace side hempty keys

theorem holdsPlaces_of_placesByKey (h : placesByKey side keys = .ok places)
    : HoldsPlaces places keys := by
  rcases placesByKey_cases side keys with ⟨_, hplaces, hholds⟩ | ⟨_, herror, _⟩
  . rw [h] at hplaces
    cases hplaces
    exact hholds
  . rw [h] at herror
    cases herror

theorem exists_placesByKey (side : Side) (h : keys.Nodup)
    : ∃ places, placesByKey side keys = .ok places := by
  rcases placesByKey_cases side keys with ⟨places, hplaces, _⟩ | ⟨_, _, hrepeat⟩
  . exact ⟨places, hplaces⟩
  . exact absurd h hrepeat.not_nodup

theorem placesByKey_eq_error {e : PairingError}
    : placesByKey side keys = .error e
        ↔ ∃ key, IsFirstRepeat key keys ∧ e = .duplicateName side key := by
  constructor
  . intro h
    rcases placesByKey_cases side keys with ⟨_, hplaces, _⟩ | ⟨key, herror, hrepeat⟩
    . rw [h] at hplaces
      cases hplaces
    . rw [h] at herror
      exact ⟨key, hrepeat, Except.error.inj herror⟩
  . rintro ⟨key, hkey, rfl⟩
    rcases placesByKey_cases side keys with ⟨_, _, hholds⟩ | ⟨other, herror, hrepeat⟩
    . exact absurd hholds.nodup hkey.not_nodup
    . rw [herror, hkey.unique hrepeat]

end Places

section Slots

variable {key : α → String} {places : Roster String Nat} {before after : List α}

def pairWith (key : α → String) (after : List α) (b : α) : Diff α :=
  match after.find? fun a => key a = key b with
  | some a => .both b a
  | none => .beforeOnly b

def slotsWithout (key : α → String) (asked : List String) (after : List α) : List (Option α) :=
  after.map fun a => if key a ∈ asked then none else some a

theorem slotsWithout_nil (key : α → String) (after : List α)
    : slotsWithout key [] after = after.map some := by
  simp [slotsWithout]

theorem filterMap_slotsWithout (key : α → String) (asked : List String) (after : List α)
    : (slotsWithout key asked after).filterMap id = after.filter fun a => key a ∉ asked := by
  unfold slotsWithout
  rw [List.filterMap_map, ← List.filterMap_eq_filter]
  congr 1
  funext a
  simp only [Function.comp_apply, id_eq, Option.guard, decide_not, Bool.not_eq_eq_eq_not,
    Bool.not_true, decide_eq_false_iff_not]
  split <;> simp_all

theorem takeSlot_slotsWithout (h : HoldsPlaces places (after.map key)) {asked : List String}
    {name : String} (hname : name ∉ asked)
    : takeSlot places (slotsWithout key asked after) name
        = (after.find? (key · = name), slotsWithout key (asked ++ [name]) after) := by
  unfold takeSlot slotsWithout
  cases hplace : places.find? name with
  | none =>
    rw [Roster.find?_eq_none_iff, h.keys_eq] at hplace
    rw [find?_key_eq_none_iff.2 hplace]
    dsimp only
    congr 1
    apply List.map_congr_left
    intro a ha
    have hkey : key a ≠ name := fun hkey => hplace (hkey ▸ List.mem_map_of_mem ha)
    simp [hkey]
  | some place =>
    have hkey := (h.find_eq name place).1 hplace
    rw [List.getElem?_map, Option.map_eq_some_iff] at hkey
    obtain ⟨a, ha, rfl⟩ := hkey
    rw [(find?_key_eq_some_iff h.nodup).2 ⟨List.mem_of_getElem? ha, rfl⟩]
    dsimp only
    congr 1
    . rw [List.getElem?_map, ha, Option.map_some, if_neg hname]
      rfl
    . -- Every other place holds another key, so its slot stays as it is.
      apply List.ext_getElem?
      intro i
      rw [List.getElem?_set, List.getElem?_map, List.getElem?_map]
      by_cases hi : place = i
      . subst hi
        rw [if_pos rfl, ha, List.length_map, if_pos (List.getElem?_eq_some_iff.1 ha).1]
        simp
      . rw [if_neg hi]
        cases hother : after[i]? with
        | none => rfl
        | some other =>
          have hne : key other ≠ key a := by
            intro hsame
            have hi' := (h.find_eq (key a) i).2 (by simp [hother, hsame])
            exact hi (Option.some.inj (hplace.symm.trans hi'))
          simp [hne]

theorem pairSlots_slotsWithout (h : HoldsPlaces places (after.map key)) {asked : List String}
    (hasked : (asked ++ before.map key).Nodup)
    : pairSlots key places before (slotsWithout key asked after)
        = (before.map (pairWith key after), slotsWithout key (asked ++ before.map key) after) := by
  induction before generalizing asked with
  | nil =>
    rw [List.map_nil, List.map_nil, List.append_nil]
    rfl
  | cons b before ih =>
    have hname : key b ∉ asked := by
      intro hmem
      exact (List.nodup_append.1 hasked).2.2 _ hmem _ List.mem_cons_self rfl
    rw [List.map_cons, List.append_cons] at hasked
    unfold pairSlots
    rw [takeSlot_slotsWithout h hname]
    dsimp only
    rw [ih hasked, List.map_cons, List.map_cons, ← List.append_cons]
    unfold pairWith
    cases after.find? fun a => key a = key b <;> rfl

end Slots

end Footprint
