import Footprint.Proofs.Correspondence
import Footprint.Proofs.Waste.Slots

namespace Footprint

variable {types others : List UserDefinedType} {t u : UserDefinedType} {f : MemberFunction}
  {name base start function : String}

structure UserDefinedType.Reordered (t u : UserDefinedType) : Prop where
  name : u.name = t.name
  baseTypes : u.baseTypes.Perm t.baseTypes
  functions : u.functions = t.functions

structure WastefulVirtual.Reordered (v w : WastefulVirtual) : Prop where
  typeName : w.typeName = v.typeName
  isComType : w.isComType = v.isComType
  bytesPerWord : w.bytesPerWord = v.bytesPerWord
  derivedTypes : w.derivedTypes.Perm v.derivedTypes
  pureOverriddenOnce : w.pureOverriddenOnce = v.pureOverriddenOnce
  neverOverridden : w.neverOverridden = v.neverOverridden
  wastedSize : w.wastedSize = v.wastedSize

abbrev ReorderedTypes (types others : List UserDefinedType) : Prop :=
  Corresponds UserDefinedType.Reordered types others

section Order

theorem UserDefinedType.Reordered.symm (h : t.Reordered u) : u.Reordered t where
  name := h.name.symm
  baseTypes := h.baseTypes.symm
  functions := h.functions.symm

theorem ReorderedTypes.symm (h : ReorderedTypes types others) : ReorderedTypes others types := by
  have ⟨zs, hzs, hperm⟩ := h.flip
  exact ⟨zs, hzs.imp fun _ _ => UserDefinedType.Reordered.symm, hperm⟩

theorem ReorderedTypes.nodup (h : ReorderedTypes types others)
    (hnames : (types.map (·.name)).Nodup)
    : (others.map (·.name)).Nodup := by
  rw [← (h.perm_map fun _ _ hsame => hsame.name).nodup_iff]
  exact hnames

theorem ReorderedTypes.directBases_subset (h : ReorderedTypes types others)
    (hnames : (types.map (·.name)).Nodup)
    : directBases others name ⊆ directBases types name := by
  intro base hbase
  rw [mem_directBases_iff (h.nodup hnames)] at hbase
  have ⟨u, hu, hname, hbase⟩ := hbase
  have ⟨t, ht, hsame⟩ := h.exists_of_mem hu
  rw [mem_directBases_iff hnames]
  refine ⟨t, ht, ?_, ?_⟩
  . rw [← hsame.name, hname]
  . exact hsame.baseTypes.subset hbase

theorem Reaches.mono (hsubset : ∀ name, directBases types name ⊆ directBases others name)
    (h : Reaches types start name)
    : Reaches others start name := by
  induction h with
  | direct hbase => exact .direct (hsubset _ hbase)
  | further _ hbase ih => exact .further ih (hsubset _ hbase)

theorem ReorderedTypes.isBaseOf_iff (h : ReorderedTypes types others)
    (hnames : (types.map (·.name)).Nodup)
    : IsBaseOf others base name ↔ IsBaseOf types base name := by
  unfold IsBaseOf
  apply and_congr_right
  intro _
  constructor
  . intro hreaches
    apply hreaches.mono
    intro name
    exact h.directBases_subset hnames
  . intro hreaches
    apply hreaches.mono
    intro name
    exact h.symm.directBases_subset (h.nodup hnames)

theorem ReorderedTypes.exists_iff (h : ReorderedTypes types others) {p : UserDefinedType → Prop}
    (hp : ∀ t u, t.Reordered u → p t → p u)
    : (∃ u ∈ others, p u) ↔ ∃ t ∈ types, p t := by
  constructor
  . intro ⟨u, hu, hpu⟩
    have ⟨t, ht, hsame⟩ := h.exists_of_mem hu
    exact ⟨t, ht, hp u t hsame.symm hpu⟩
  . intro ⟨t, ht, hpt⟩
    have ⟨u, hu, hsame⟩ := h.symm.exists_of_mem ht
    exact ⟨u, hu, hp t u hsame.symm hpt⟩

end Order

section Slots

variable (h : ReorderedTypes types others) (hnames : (types.map (·.name)).Nodup)

theorem UserDefinedType.Reordered.declaresVirtual_iff (hsame : t.Reordered u)
    : u.DeclaresVirtual function ↔ t.DeclaresVirtual function := by
  unfold DeclaresVirtual
  rw [hsame.functions]

theorem UserDefinedType.Reordered.overrides_iff (hsame : t.Reordered u)
    : u.Overrides function ↔ t.Overrides function := by
  unfold Overrides
  rw [hsame.functions]

include h hnames

theorem ReorderedTypes.isCom_iff : IsCom others name ↔ IsCom types name := by
  unfold IsCom
  simp only [h.isBaseOf_iff hnames]

theorem ReorderedTypes.introduces_iff (hsame : t.Reordered u)
    : Introduces others u f ↔ Introduces types t f := by
  have hinherited : (∃ base ∈ others, IsBaseOf types base.name t.name ∧ base.DeclaresVirtual f.name)
      ↔ ∃ base ∈ types, IsBaseOf types base.name t.name ∧ base.DeclaresVirtual f.name := by
    apply h.exists_iff
    intro base base' hbase ⟨hreached, hdeclares⟩
    rw [hbase.name, hbase.declaresVirtual_iff]
    exact ⟨hreached, hdeclares⟩
  have hderived : (∃ d ∈ others, IsBaseOf types t.name d.name)
      ↔ ∃ d ∈ types, IsBaseOf types t.name d.name := by
    apply h.exists_iff
    intro d d' hd hreached
    rw [hd.name]
    exact hreached
  unfold Introduces
  simp only [h.isBaseOf_iff hnames, hsame.name, ← not_and, ← not_exists, hinherited, hderived]

theorem ReorderedTypes.introduced_eq (hsame : t.Reordered u)
    : introduced others u = introduced types t := by
  unfold introduced
  rw [hsame.functions]
  simp only [h.introduces_iff hnames hsame]

theorem ReorderedTypes.among_derivedFrom (hsame : t.Reordered u)
    : ReorderedTypes (derivedFrom types t.name) (derivedFrom others u.name) := by
  unfold derivedFrom
  apply h.filter
  intro d d' hd
  simp only [hd.name, hsame.name, h.isBaseOf_iff hnames]

theorem ReorderedTypes.among_overridersOf (hsame : t.Reordered u) (function : String)
    : ReorderedTypes (overridersOf types t function) (overridersOf others u function) := by
  unfold overridersOf
  apply (h.among_derivedFrom hnames hsame).filter
  intro d d' hd
  simp only [hd.overrides_iff]

theorem ReorderedTypes.singleOverrides_eq (hsame : t.Reordered u)
    : singleOverrides others u = singleOverrides types t := by
  unfold singleOverrides
  rw [h.introduced_eq hnames hsame]
  apply List.flatMap_congr
  intro f _
  have hoverriders := h.among_overridersOf hnames hsame f.name
  rw [← hoverriders.length_eq]
  split
  . next hsingle =>
    -- A list of one type has no other order.
    have hmap : ((overridersOf types t f.name).map fun d =>
        (⟨d.name, f.name⟩ : WastedOverride)).Perm
        ((overridersOf others u f.name).map fun d => ⟨d.name, f.name⟩) := by
      apply hoverriders.perm_map
      intro d d' hd
      rw [hd.name]
    have ⟨d, hd⟩ := List.length_eq_one_iff.1 hsingle.2
    rw [hd, List.map_singleton, List.singleton_perm] at hmap
    rw [hd, List.map_singleton]
    exact hmap.symm
  . rfl

theorem ReorderedTypes.unusedVirtuals_eq (hsame : t.Reordered u)
    : unusedVirtuals others u = unusedVirtuals types t := by
  unfold unusedVirtuals
  rw [h.introduced_eq hnames hsame]
  apply List.flatMap_congr
  intro f _
  have hlength := (h.among_overridersOf hnames hsame f.name).length_eq
  simp only [← List.length_eq_zero_iff, hlength, hsame.name]

end Slots

namespace WastefulVirtual

variable {s : Snapshot}

theorem reordered_ofType (h : ReorderedTypes s.userDefinedTypes types)
    (hnames : (s.userDefinedTypes.map (·.name)).Nodup) (hsame : t.Reordered u)
    : (ofType s t).Reordered (ofType { s with userDefinedTypes := types } u) := by
  have hderived : ((derivedFrom s.userDefinedTypes t.name).map (·.name)).Perm
      ((derivedFrom types u.name).map (·.name)) := by
    apply (h.among_derivedFrom hnames hsame).perm_map
    intro d d' hd
    exact hd.name
  have hsingle := h.singleOverrides_eq hnames hsame
  have hunused := h.unusedVirtuals_eq hnames hsame
  refine ⟨hsame.name, ?_, rfl, hderived.symm, hsingle, hunused, ?_⟩
  . unfold ofType
    dsimp only
    rw [hsame.name]
    simp only [h.isCom_iff hnames]
  . have hlength := hderived.length_eq
    rw [List.length_map, List.length_map] at hlength
    rw [wastedSize_eq, wastedSize_eq, exactWaste_ofType, exactWaste_ofType]
    dsimp only
    rw [hsingle, hunused, hlength]

theorem Reordered.tellsWaste_eq
    (hsame : (ofType s t).Reordered (ofType { s with userDefinedTypes := types } u))
    (excludeComTypes : Bool)
    : tellsWaste excludeComTypes { s with userDefinedTypes := types } u
        = tellsWaste excludeComTypes s t := by
  rw [WastefulVirtual.tellsWaste_eq, WastefulVirtual.tellsWaste_eq, hsame.wastedSize,
    hsame.isComType]

theorem found_in_any_order (excludeComTypes : Bool) (hs : s.check = .ok ())
    (horder : ReorderedTypes s.userDefinedTypes types) {m m' : Monitor}
    (hnever : ((find excludeComTypes s).run m).2.canceled = false)
    (hnever' : ((find excludeComTypes { s with userDefinedTypes := types }).run m').2.canceled
      = false)
    : ∃ items others,
        ((find excludeComTypes s).run m).1 = .ok items
          ∧ ((find excludeComTypes { s with userDefinedTypes := types }).run m').1 = .ok others
          ∧ Corresponds Reordered items others := by
  have ⟨_, hdistinct, _⟩ := Snapshot.check_eq_ok.1 hs
  have hnames := hdistinct .userDefinedType
  rw [Pass.run_of_not_canceled hnever, Pass.run_of_not_canceled hnever',
    result_find_eq_ofType excludeComTypes hnames,
    result_find_eq_ofType excludeComTypes (s := { s with userDefinedTypes := types })
      (horder.nodup hnames)]
  refine ⟨_, _, rfl, rfl, ?_⟩
  have hwasting : ReorderedTypes
      (s.userDefinedTypes.filter (tellsWaste excludeComTypes s))
      (types.filter (tellsWaste excludeComTypes { s with userDefinedTypes := types })) := by
    apply horder.filter
    intro t u hsame
    exact ((reordered_ofType horder hnames hsame).tellsWaste_eq excludeComTypes).symm
  apply hwasting.map
  intro t u hsame
  exact reordered_ofType horder hnames hsame

def reversed (types : List UserDefinedType) : List UserDefinedType :=
  (types.map fun t => { t with baseTypes := t.baseTypes.reverse }).reverse

theorem reorderedTypes_reversed (types : List UserDefinedType)
    : ReorderedTypes types (reversed types) := by
  refine ⟨_, ?_, (List.reverse_perm _).symm⟩
  rw [List.forall₂_map_right_iff, List.forall₂_same]
  intro t _
  exact ⟨rfl, List.reverse_perm _, rfl⟩

theorem found_in_any_order_tangledTypes
    : ∃ items others,
        ((find false { userDefinedTypes := tangledTypes }).run (.start none)).1 = .ok items
          ∧ ((find false { userDefinedTypes := reversed tangledTypes }).run (.start none)).1
            = .ok others
          ∧ items.map (fun v => (v.typeName, v.derivedTypes))
            = [("Root", ["Left", "Right", "Bottom"]), ("Loop", ["Pool"])]
          ∧ others.map (fun v => (v.typeName, v.derivedTypes))
            = [("Loop", ["Pool"]), ("Root", ["Bottom", "Right", "Left"])]
          ∧ Corresponds Reordered items others := by
  have hcheck : Snapshot.check { userDefinedTypes := tangledTypes } = .ok () := rfl
  have ⟨items, others, hitems, hothers, hsame⟩ :=
    found_in_any_order false hcheck (reorderedTypes_reversed tangledTypes)
      (Pass.not_canceled_of_start_none _) (Pass.not_canceled_of_start_none _)
  have hnames : (tangledTypes.map (·.name)).Nodup := by decide
  have hreversed : ((reversed tangledTypes).map (·.name)).Nodup := by decide
  refine ⟨items, others, hitems, hothers, ?_, ?_, hsame⟩
  . rw [Pass.run_start_none, result_find_eq_ofType false hnames] at hitems
    cases hitems
    decide +kernel
  . rw [Pass.run_start_none, result_find_eq_ofType false hreversed] at hothers
    cases hothers
    decide +kernel

end WastefulVirtual
end Footprint
