import Footprint.Proofs.Pairing
import Footprint.Proofs.Waste.WastefulVirtual
import Mathlib.Data.Finset.Card
import Mathlib.Tactic.Ring

/-!
This module contains how the change of the waste of a type comes about. The changes that are listed
for its overrides and for its derived types add up to the change of its waste, and a type is left
out of a comparison exactly if neither its overrides nor its derived types changed.
-/

namespace Footprint

/--
Whether the sides of a diff have words of the same size and list nothing twice. Derived types are
collected as a set, so only overrides could ever be listed twice.
-/
structure Diff.Comparable (d : Diff WastefulVirtual) : Prop where
  bytesPerWord : ∀ v ∈ d.sides, ∀ w ∈ d.sides, v.bytesPerWord = w.bytesPerWord
  overrides : ∀ v ∈ d.sides, v.overrides.Nodup
  derivedTypes : ∀ v ∈ d.sides, v.derivedTypes.Nodup

instance (d : Diff WastefulVirtual) : Decidable d.Comparable :=
  decidable_of_iff
    ((∀ v ∈ d.sides, ∀ w ∈ d.sides, v.bytesPerWord = w.bytesPerWord)
      ∧ (∀ v ∈ d.sides, v.overrides.Nodup) ∧ ∀ v ∈ d.sides, v.derivedTypes.Nodup)
    ⟨fun ⟨hword, hoverrides, htypes⟩ => ⟨hword, hoverrides, htypes⟩,
      fun h => ⟨h.bytesPerWord, h.overrides, h.derivedTypes⟩⟩

def Diff.SameSlots : Diff WastefulVirtual → Prop
  | both before after =>
    before.overrides.toFinset = after.overrides.toFinset
      ∧ before.derivedTypes.toFinset = after.derivedTypes.toFinset
  | _ => False

namespace WastefulVirtualDiff

def changeTotal (d : WastefulVirtualDiff) : Int :=
  (d.hierarchyChanges.map (·.wasteChange)).sum + (d.overrideChanges.map (·.wasteChange)).sum

section Lacking

variable {α : Type} [DecidableEq α] {xs ys : List α}

theorem length_filter_mem_comm (hxs : xs.Nodup) (hys : ys.Nodup)
    : (xs.filter (· ∈ ys)).length = (ys.filter (· ∈ xs)).length := by
  apply List.Perm.length_eq
  rw [List.perm_ext_iff_of_nodup (hxs.filter _) (hys.filter _)]
  intro x
  simp only [List.mem_filter, decide_eq_true_eq]
  exact and_comm

theorem length_filter_mem_add_length_lacking (xs ys : List α)
    : (xs.filter (· ∈ ys)).length + (lacking xs ys).length = xs.length := by
  have hlacking : lacking xs ys = xs.filter fun x => !decide (x ∈ ys) := by
    unfold lacking
    apply List.filter_congr
    simp
  rw [hlacking]
  exact (List.length_eq_length_filter_add (· ∈ ys)).symm

theorem lacking_eq_nil : lacking xs ys = [] ↔ ∀ x ∈ xs, x ∈ ys := by
  unfold lacking
  simp

end Lacking

theorem sum_wasteChange_map (types : List String) (amount : Int)
    : ((types.map fun type => HierarchyChange.mk type amount).map (·.wasteChange)).sum
        = types.length * amount := by
  simp [Function.comp_def]

theorem sum_wasteChange_changeAll (amount : Int) (overrides : List WastedOverride)
    : ((changeAll amount overrides).map (·.wasteChange)).sum = overrides.length * amount := by
  unfold changeAll
  simp [Function.comp_def]

section Sums

variable {v before after : WastefulVirtual} {d : Diff WastefulVirtual}

theorem mul_toSigned_wastePerSlot (h : v.exactWaste ≤ maxSigned) {count : Nat}
    (hcount : count ≤ v.overrides.length)
    : (count : Int) * Quantity.toSigned v.wastePerSlot = (count * v.exactPerSlot : Nat) := by
  cases count with
  | zero => simp
  | succ count =>
    -- A slot is in range as soon as one override wastes it.
    have hslot : v.exactPerSlot ≤ maxSigned := by
      refine le_trans ?_ h
      exact Nat.le_mul_of_pos_right _ (by omega)
    rw [v.wastePerSlot_eq, Quantity.wrap_of_lt (hslot.trans_lt (by decide)),
      Quantity.toSigned_of_le hslot]
    exact (Nat.cast_mul _ _).symm

theorem toSigned_mul_bytesPerWord (h : v.exactWaste ≤ maxSigned) {count : Nat}
    (hcount : count ≤ v.overrides.length)
    : Quantity.toSigned (Quantity.wrappingMul count v.bytesPerWord)
        = (count * v.bytesPerWord : Nat) := by
  have hle : count * v.bytesPerWord ≤ maxSigned := by
    refine le_trans ?_ h
    calc count * v.bytesPerWord
      _ ≤ v.overrides.length * v.bytesPerWord := Nat.mul_le_mul_right _ hcount
      _ ≤ v.overrides.length * v.exactPerSlot := by
        apply Nat.mul_le_mul_left
        exact Nat.le_mul_of_pos_right _ (by omega)
      _ = v.exactWaste := Nat.mul_comm _ _
  rw [Quantity.wrappingMul_of_lt (hle.trans_lt (by decide)), Quantity.toSigned_of_le hle]

theorem wastedSize_of_le (h : v.exactWaste ≤ maxSigned) : v.wastedSize = v.exactWaste := by
  rw [v.wastedSize_eq, Quantity.wrap_of_lt (h.trans_lt (by decide))]

theorem changeTotal_afterOnly (h : after.exactWaste ≤ maxSigned)
    : (ofDiff (.afterOnly after)).changeTotal = after.exactWaste := by
  show _ + ((changeAll _ after.overrides).map (·.wasteChange)).sum = _
  rw [sum_wasteChange_changeAll, mul_toSigned_wastePerSlot h le_rfl, Nat.mul_comm]
  exact Int.zero_add _

theorem changeTotal_beforeOnly (h : before.exactWaste ≤ maxSigned)
    : (ofDiff (.beforeOnly before)).changeTotal = -before.exactWaste := by
  show _ + ((changeAll _ before.overrides).map (·.wasteChange)).sum = _
  rw [sum_wasteChange_changeAll, Int.mul_neg, mul_toSigned_wastePerSlot h le_rfl, Nat.mul_comm]
  exact Int.zero_add _

theorem cross_terms_cancel (word stayed gone added typesBefore typesAfter lost gained : Int)
    (htypes : typesBefore + gained = typesAfter + lost)
    : lost * -(stayed * word) + gained * (stayed * word)
          + (-(gone * (word * (1 + typesBefore))) + added * (word * (1 + typesAfter)))
        = word * (1 + typesAfter) * (stayed + added)
          - word * (1 + typesBefore) * (stayed + gone) := by
  -- Types are priced by the overrides that stayed, so no product of two changes is left over.
  obtain rfl : typesAfter = typesBefore + gained - lost := by omega
  ring

theorem hierarchyTotal_both (before after : WastefulVirtual) {stayed word : Nat}
    (hbefore : before.overrides.length - (lacking before.overrides after.overrides).length = stayed)
    (hafter : after.overrides.length - (lacking after.overrides before.overrides).length = stayed)
    (hwordBefore : before.bytesPerWord = word) (hwordAfter : after.bytesPerWord = word)
    (hrange : Quantity.toSigned (Quantity.wrappingMul stayed word) = (stayed * word : Nat))
    : ((ofDiff (.both before after)).hierarchyChanges.map (·.wasteChange)).sum
        = (lacking before.derivedTypes after.derivedTypes).length * -((stayed : Int) * word)
          + (lacking after.derivedTypes before.derivedTypes).length * ((stayed : Int) * word) := by
  unfold ofDiff
  dsimp only
  rw [List.map_append, List.sum_append, sum_wasteChange_map, sum_wasteChange_map, hbefore, hafter,
    hwordBefore, hwordAfter, hrange]
  push_cast
  rfl

theorem overrideTotal_both (hbefore : before.exactWaste ≤ maxSigned)
    (hafter : after.exactWaste ≤ maxSigned)
    : ((ofDiff (.both before after)).overrideChanges.map (·.wasteChange)).sum
        = -((lacking before.overrides after.overrides).length * before.exactPerSlot : Nat)
          + ((lacking after.overrides before.overrides).length * after.exactPerSlot : Nat) := by
  have hgone : (lacking before.overrides after.overrides).length ≤ before.overrides.length :=
    List.length_filter_le _ _
  have hadded : (lacking after.overrides before.overrides).length ≤ after.overrides.length :=
    List.length_filter_le _ _
  unfold ofDiff
  dsimp only
  rw [List.map_append, List.sum_append, sum_wasteChange_changeAll, sum_wasteChange_changeAll,
    Int.mul_neg, mul_toSigned_wastePerSlot hbefore hgone, mul_toSigned_wastePerSlot hafter hadded]

theorem changeTotal_both (h : Diff.Comparable (.both before after))
    (hbefore : before.exactWaste ≤ maxSigned) (hafter : after.exactWaste ≤ maxSigned)
    : (ofDiff (.both before after)).changeTotal = (after.exactWaste : Int) - before.exactWaste := by
  have hb : before ∈ (Diff.both before after).sides := List.mem_cons_self
  have ha : after ∈ (Diff.both before after).sides := List.mem_cons_of_mem _ List.mem_cons_self
  have hword := h.bytesPerWord before hb after ha
  -- As nothing is listed twice, both builds have the same number of overrides that stayed.
  have hstayed := length_filter_mem_comm (h.overrides before hb) (h.overrides after ha)
  have hgone := length_filter_mem_add_length_lacking before.overrides after.overrides
  have hadded := length_filter_mem_add_length_lacking after.overrides before.overrides
  have hkept := length_filter_mem_comm (h.derivedTypes before hb) (h.derivedTypes after ha)
  have hlost := length_filter_mem_add_length_lacking before.derivedTypes after.derivedTypes
  have hgained := length_filter_mem_add_length_lacking after.derivedTypes before.derivedTypes
  have hrange := toSigned_mul_bytesPerWord hbefore
    (List.length_filter_le (fun w => decide (w ∈ after.overrides)) before.overrides)
  unfold changeTotal
  rw [hierarchyTotal_both before after (by omega) (by omega) rfl hword.symm hrange,
    overrideTotal_both hbefore hafter]
  unfold WastefulVirtual.exactWaste WastefulVirtual.exactPerSlot
  rw [← hword, ← hgone, ← hadded, ← hstayed]
  push_cast
  apply cross_terms_cancel
  omega

theorem changeTotal_ofDiff (h : d.Comparable) (hsize : ∀ v ∈ d.sides, v.exactWaste ≤ maxSigned)
    : (ofDiff d).changeTotal = (ofDiff d).wastedSizeDiff := by
  cases d with
  | beforeOnly before =>
    have hbefore := hsize before List.mem_cons_self
    rw [changeTotal_beforeOnly hbefore]
    show _ = Quantity.delta before.wastedSize 0
    rw [wastedSize_of_le hbefore, Quantity.delta_of_le hbefore (Nat.zero_le _)]
    omega
  | afterOnly after =>
    have hafter := hsize after List.mem_cons_self
    rw [changeTotal_afterOnly hafter]
    show _ = Quantity.delta 0 after.wastedSize
    rw [wastedSize_of_le hafter, Quantity.delta_of_le (Nat.zero_le _) hafter]
    omega
  | both before after =>
    have hbefore := hsize before List.mem_cons_self
    have hafter := hsize after (List.mem_cons_of_mem _ List.mem_cons_self)
    rw [changeTotal_both h hbefore hafter]
    show _ = Quantity.delta before.wastedSize after.wastedSize
    rw [wastedSize_of_le hbefore, wastedSize_of_le hafter, Quantity.delta_of_le hbefore hafter]

end Sums

section Unchanged

variable {d : Diff WastefulVirtual} {before after : List WastefulVirtual}
  {pairs : List (Diff WastefulVirtual)}

theorem toFinset_eq_iff_lacking {α : Type} [DecidableEq α] {xs ys : List α}
    : xs.toFinset = ys.toFinset ↔ lacking xs ys = [] ∧ lacking ys xs = [] := by
  rw [lacking_eq_nil, lacking_eq_nil, List.toFinset.ext_iff]
  constructor
  . intro h
    exact ⟨fun x => (h x).1, fun x => (h x).2⟩
  . intro ⟨hxs, hys⟩ x
    exact ⟨hxs x, hys x⟩

theorem isUnchanged_ofDiff
    : (ofDiff d).isUnchanged = true ↔ d.SameSlots ∧ d.wastedSizeDiff = 0 := by
  cases d with
  | beforeOnly before => simp [ofDiff, isUnchanged, Diff.SameSlots]
  | afterOnly after => simp [ofDiff, isUnchanged, Diff.SameSlots]
  | both before after =>
    simp only [Diff.SameSlots, toFinset_eq_iff_lacking, ofDiff, isUnchanged, wastedSizeDiff,
      changeAll, Bool.and_eq_true, List.isEmpty_iff, List.append_eq_nil_iff, List.map_eq_nil_iff]
    constructor
    . intro ⟨⟨hsize, hlost, hgained⟩, hgone, hadded⟩
      exact ⟨⟨⟨hgone, hadded⟩, hlost, hgained⟩, of_decide_eq_true hsize⟩
    . intro ⟨⟨⟨hgone, hadded⟩, hlost, hgained⟩, hsize⟩
      exact ⟨⟨decide_eq_true hsize, hlost, hgained⟩, hgone, hadded⟩

theorem length_eq_of_toFinset_eq {α : Type} [DecidableEq α] {xs ys : List α} (hxs : xs.Nodup)
    (hys : ys.Nodup) (h : xs.toFinset = ys.toFinset)
    : xs.length = ys.length := by
  rw [← List.toFinset_card_of_nodup hxs, h, List.toFinset_card_of_nodup hys]

theorem wastedSizeDiff_of_sameSlots (h : d.Comparable) (hsame : d.SameSlots)
    : d.wastedSizeDiff = 0 := by
  cases d with
  | beforeOnly before => cases hsame
  | afterOnly after => cases hsame
  | both before after =>
    have hb : before ∈ (Diff.both before after).sides := List.mem_cons_self
    have ha : after ∈ (Diff.both before after).sides := List.mem_cons_of_mem _ List.mem_cons_self
    have hwasted : before.wastedSize = after.wastedSize := by
      unfold WastefulVirtual.wastedSize WastefulVirtual.wastePerSlot
      rw [h.bytesPerWord before hb after ha,
        length_eq_of_toFinset_eq (h.overrides before hb) (h.overrides after ha) hsame.1,
        length_eq_of_toFinset_eq (h.derivedTypes before hb) (h.derivedTypes after ha) hsame.2]
    show Quantity.delta before.wastedSize after.wastedSize = 0
    rw [hwasted]
    exact Int.sub_self _

theorem diff_eq_ok_iff {diffs : List WastefulVirtualDiff}
    : WastefulVirtual.diff before after = .ok diffs
        ↔ ∃ pairs, pairByKey WastefulVirtual.typeName before after = .ok pairs
          ∧ ((pairs.map ofDiff).filter fun d => !d.isUnchanged) = diffs := by
  unfold WastefulVirtual.diff
  rw [Except.bind_eq_ok]
  simp only [Except.pure_eq_ok, Except.ok.injEq]

theorem diff_eq_ok (h : pairByKey WastefulVirtual.typeName before after = .ok pairs)
    : WastefulVirtual.diff before after
        = .ok ((pairs.map ofDiff).filter fun d => !d.isUnchanged) := by
  exact diff_eq_ok_iff.2 ⟨pairs, h, rfl⟩

theorem diff_ofDiff (d : Diff WastefulVirtual) : (ofDiff d).diff = d := by
  cases d <;> rfl

theorem sum_map_changed {M : Type} [AddCommMonoid M] (f : Diff WastefulVirtual → M)
    (pairs : List (Diff WastefulVirtual))
    : (((pairs.map ofDiff).filter fun d => !d.isUnchanged).map fun d => f d.diff).sum
        = (pairs.map fun d => if (ofDiff d).isUnchanged then 0 else f d).sum := by
  induction pairs with
  | nil => rfl
  | cons d pairs ih =>
    rw [List.map_cons, List.filter_cons, List.map_cons, List.sum_cons, ← ih]
    cases hunchanged : (ofDiff d).isUnchanged with
    | true => simp
    | false => simp [diff_ofDiff]

theorem ofDiff_mem_filter (hd : d ∈ pairs)
    : ofDiff d ∉ (pairs.map ofDiff).filter (fun d => !d.isUnchanged)
        ↔ (ofDiff d).isUnchanged = true := by
  rw [List.mem_filter, Bool.not_eq_true', not_and, Bool.not_eq_false]
  constructor
  . intro h
    exact h (List.mem_map_of_mem hd)
  . intro h _
    exact h

end Unchanged

theorem changes_explain_waste
    : (∀ d : Diff WastefulVirtual, d.Comparable → (∀ v ∈ d.sides, v.exactWaste ≤ maxSigned)
        → (ofDiff d).changeTotal = (ofDiff d).wastedSizeDiff)
      ∧ ∀ before after pairs, pairByKey WastefulVirtual.typeName before after = .ok pairs
        → ∃ diffs, WastefulVirtual.diff before after = .ok diffs
          ∧ diffs.Sublist (pairs.map ofDiff)
          ∧ (∀ d ∈ pairs, d.Comparable → (ofDiff d ∉ diffs ↔ d.SameSlots))
          ∧ ∀ d ∈ pairs, ofDiff d ∉ diffs ↔ d.SameSlots ∧ d.wastedSizeDiff = 0 := by
  constructor
  . intro d h hsize
    exact changeTotal_ofDiff h hsize
  . intro before after pairs hpairs
    refine ⟨_, diff_eq_ok hpairs, List.filter_sublist, ?_, ?_⟩
    . intro d hd h
      rw [ofDiff_mem_filter hd, isUnchanged_ofDiff]
      constructor
      . exact And.left
      . intro hsame
        exact ⟨hsame, wastedSizeDiff_of_sameSlots h hsame⟩
    . intro d hd
      rw [ofDiff_mem_filter hd, isUnchanged_ofDiff]

def unusedIn (type : String) (derivedTypes functions : List String) : WastefulVirtual where
  typeName := type
  isComType := false
  bytesPerWord := 8
  derivedTypes := derivedTypes
  pureOverriddenOnce := []
  neverOverridden := functions.map (⟨type, ·⟩)

def earlierShapes : List WastefulVirtual := [
  unusedIn "Shape" ["Circle", "Square"] ["Draw()", "Name()", "Id()"],
  unusedIn "Solid" ["Cube", "Ball"] ["Weigh()", "Spin()"],
  unusedIn "Line" ["Arc"] ["Bend()"]]

def laterShapes : List WastefulVirtual := [
  unusedIn "Solid" ["Ball", "Cube"] ["Spin()", "Weigh()"],
  unusedIn "Shape" ["Circle", "Triangle", "Hexagon"] ["Name()", "Draw()", "Color()"]]

theorem changes_explain_waste_shapes
    : ∃ pairs diffs, pairByKey WastefulVirtual.typeName earlierShapes laterShapes = .ok pairs
        ∧ WastefulVirtual.diff earlierShapes laterShapes = .ok diffs
        ∧ diffs.map (fun d => (d.typeName, d.wastedSizeDiff)) = [("Shape", 24), ("Line", -16)]
        ∧ ∀ d ∈ pairs, (ofDiff d).changeTotal = (ofDiff d).wastedSizeDiff
          ∧ (ofDiff d ∉ diffs ↔ d.SameSlots) := by
  have hpairs : pairByKey WastefulVirtual.typeName earlierShapes laterShapes = .ok [
      .both (unusedIn "Shape" ["Circle", "Square"] ["Draw()", "Name()", "Id()"])
        (unusedIn "Shape" ["Circle", "Triangle", "Hexagon"] ["Name()", "Draw()", "Color()"]),
      .both (unusedIn "Solid" ["Cube", "Ball"] ["Weigh()", "Spin()"])
        (unusedIn "Solid" ["Ball", "Cube"] ["Spin()", "Weigh()"]),
      .beforeOnly (unusedIn "Line" ["Arc"] ["Bend()"])] := by decide
  have ⟨hchanges, hpaired⟩ := changes_explain_waste
  have ⟨diffs, hdiffs, _, hleftOut, _⟩ := hpaired _ _ _ hpairs
  refine ⟨_, diffs, hpairs, hdiffs, ?_, ?_⟩
  . cases hdiffs
    decide
  . intro d hd
    have hcomparable : d.Comparable := by
      revert d
      decide
    have hsize : ∀ v ∈ d.sides, v.exactWaste ≤ maxSigned := by
      revert d
      decide
    exact ⟨hchanges d hcomparable hsize, hleftOut d hd hcomparable⟩

end WastefulVirtualDiff
end Footprint
