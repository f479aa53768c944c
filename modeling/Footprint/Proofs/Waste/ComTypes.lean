import Footprint.Proofs.Pass.Sweep
import Footprint.Proofs.Waste.Search
import Footprint.Proofs.Waste.Slots

namespace Footprint

variable {types : List UserDefinedType} {type derived name : String}

theorem isCom_iff_exists_root (hnames : (types.map (·.name)).Nodup)
    : IsCom types name
        ↔ ∃ root, Relation.ReflTransGen (NamesBase types) name root
          ∧ isComTypeName root = true := by
  constructor
  . rintro (hname | ⟨base, hbase, hcom⟩)
    . exact ⟨name, .refl, hname⟩
    . exact ⟨base, ((reaches_iff_transGen hnames).1 hbase.2).to_reflTransGen, hcom⟩
  . intro ⟨root, hroot, hcom⟩
    -- No type is a base of itself, so a path that returns to the type counts by its own name.
    by_cases heq : root = name
    . exact .inl (heq ▸ hcom)
    . rcases Relation.reflTransGen_iff_eq_or_transGen.1 hroot with heq' | hpath
      . exact absurd heq' heq
      . exact .inr ⟨root, ⟨heq, (reaches_iff_transGen hnames).2 hpath⟩, hcom⟩

theorem IsCom.of_reflTransGen (hnames : (types.map (·.name)).Nodup) (h : IsCom types type)
    (hpath : Relation.ReflTransGen (NamesBase types) derived type)
    : IsCom types derived := by
  have ⟨root, hroot, hcom⟩ := (isCom_iff_exists_root hnames).1 h
  exact (isCom_iff_exists_root hnames).2 ⟨root, hpath.trans hroot, hcom⟩

namespace WastefulVirtual

variable {s : Snapshot} {items : List WastefulVirtual}

theorem isComType_of_mem_find {excludeComTypes : Bool}
    (h : (find excludeComTypes s).result = .ok items) {v : WastefulVirtual} (hv : v ∈ items)
    : v.isComType = (Hierarchy.ofTypes s.userDefinedTypes).isComType v.typeName := by
  rw [result_find excludeComTypes s (Hierarchy.result_load _), foldl_keep, List.nil_append] at h
  cases h
  have ⟨t, _, heq⟩ := List.mem_map.1 hv
  rw [← heq]
  rfl

theorem result_find_without_com (h : (find false s).result = .ok items)
    : (find true s).result = .ok (items.filter (!·.isComType)) := by
  rw [result_find false s (Hierarchy.result_load _), foldl_keep, List.nil_append] at h
  cases h
  rw [result_find true s (Hierarchy.result_load _), foldl_keep, List.nil_append, List.filter_map,
    List.filter_filter]
  congr 2
  apply List.filter_congr
  intro t _
  rw [Bool.false_and, Bool.or_false, Bool.true_and, Bool.not_or, Bool.and_comm]
  rfl

theorem decidedBy_find (excludeComTypes : Bool) (s : Snapshot)
    : (find excludeComTypes s).DecidedBy
        ((Pass.report (.begun "Discovering all user-defined types in the binary")).steps
          ++ ((Hierarchy.load s.userDefinedTypes).steps
            ++ ((Hierarchy.ofTypes s.userDefinedTypes).candidates.foldlM
              (fun (sweep : Sweep) _ => sweep.advance 1)
              { task := .wastefulTypes
                total := (Hierarchy.ofTypes s.userDefinedTypes).candidates.length }).steps)) := by
  rw [find_eq_bind]
  apply Pass.DecidedBy.of_next (Pass.result_report _)
  apply Pass.DecidedBy.of_next (Hierarchy.result_load _)
  apply (Sweep.decidedBy_run _ _ _ _ _).bind
  intro items hmem
  cases List.mem_singleton.1 hmem

theorem run_find_without_com (s : Snapshot) (m : Monitor)
    : ((find true s).run m).1 = ((find false s).run m).1.map (·.filter (!·.isComType)) := by
  have ⟨items, hitems⟩ := exists_find false s
  rw [(decidedBy_find true s).run_fst, (decidedBy_find false s).run_fst, hitems,
    result_find_without_com hitems]
  split
  . rfl
  . rfl

theorem com_types_left_out_with_all_below (hs : s.check = .ok ())
    : ∃ h items, (Hierarchy.load s.userDefinedTypes).result = .ok h
      ∧ (find false s).result = .ok items
      ∧ (∀ m, ((find true s).run m).1
          = ((find false s).run m).1.map (·.filter (!·.isComType)))
      ∧ (∀ v ∈ items, v.isComType = h.isComType v.typeName)
      ∧ (∀ name, h.isComType name = true
          ↔ ∃ root, Relation.ReflTransGen (NamesBase s.userDefinedTypes) name root
            ∧ isComTypeName root = true)
      ∧ (∀ type derived, h.isComType type = true
          → Relation.TransGen (NamesBase s.userDefinedTypes) derived type
          → h.isComType derived = true)
      ∧ ∀ v ∈ items.filter (!·.isComType), ∀ type, h.isComType type = true
          → ¬Relation.ReflTransGen (NamesBase s.userDefinedTypes) v.typeName type := by
  have ⟨_, hdistinct, _⟩ := Snapshot.check_eq_ok.1 hs
  have hnames := hdistinct .userDefinedType
  have ⟨items, hitems⟩ := exists_find false s
  have hinherits : ∀ type derived, (Hierarchy.ofTypes s.userDefinedTypes).isComType type = true
      → Relation.ReflTransGen (NamesBase s.userDefinedTypes) derived type
      → (Hierarchy.ofTypes s.userDefinedTypes).isComType derived = true := by
    intro type derived hcom hpath
    rw [Hierarchy.isComType_ofTypes, decide_eq_true_iff] at hcom ⊢
    exact hcom.of_reflTransGen hnames hpath
  refine ⟨_, items, Hierarchy.result_load _, hitems, run_find_without_com s,
    fun v hv => isComType_of_mem_find hitems hv, ?_, ?_, ?_⟩
  . intro name
    rw [Hierarchy.isComType_ofTypes, decide_eq_true_iff, isCom_iff_exists_root hnames]
  . intro type derived hcom hpath
    exact hinherits type derived hcom hpath.to_reflTransGen
  . intro v hv type hcom hpath
    obtain ⟨hv, hleft⟩ := List.mem_filter.1 hv
    rw [isComType_of_mem_find hitems hv, hinherits type v.typeName hcom hpath] at hleft
    cases hleft

def wovenTypes : List UserDefinedType := [
  { name := "Page", baseTypes := ["View"], functions := [{ name := "show", isVirtual := true }] },
  { name := "View", baseTypes := ["Page", "IUnknown"] },
  { name := "Shape", functions := [{ name := "draw", isVirtual := true }] },
  { name := "Circle", baseTypes := ["Shape"] }]

theorem com_types_left_out_with_all_below_wovenTypes
    : ((find false { userDefinedTypes := wovenTypes }).run (.start none)).1 = .ok [
        { typeName := "Page", isComType := true, bytesPerWord := 8, derivedTypes := ["View"],
          pureOverriddenOnce := [], neverOverridden := [⟨"Page", "show"⟩] },
        { typeName := "Shape", isComType := false, bytesPerWord := 8, derivedTypes := ["Circle"],
          pureOverriddenOnce := [], neverOverridden := [⟨"Shape", "draw"⟩] }]
      ∧ ((find true { userDefinedTypes := wovenTypes }).run (.start none)).1 = .ok [
        { typeName := "Shape", isComType := false, bytesPerWord := 8, derivedTypes := ["Circle"],
          pureOverriddenOnce := [], neverOverridden := [⟨"Shape", "draw"⟩] }]
      ∧ ∃ h, (Hierarchy.load wovenTypes).result = .ok h ∧ h.isComType "Page" = true := by
  have hcheck : Snapshot.check { userDefinedTypes := wovenTypes } = .ok () := rfl
  have ⟨h, _, hload, _, hrun, _, hroot, hinherits, _⟩ :=
    com_types_left_out_with_all_below hcheck
  have hnames : (wovenTypes.map (·.name)).Nodup := by decide
  have hpath : Relation.TransGen (NamesBase wovenTypes) "Page" "IUnknown" :=
    .tail (.single ⟨_, .head _, rfl, .head _⟩)
      ⟨_, .tail _ (.head _), rfl, .tail _ (.head _)⟩
  refine ⟨?_, ?_, h, hload, hinherits "IUnknown" "Page" ?_ hpath⟩
  . rw [Pass.run_start_none, result_find_eq_ofType false hnames]
    decide +kernel
  . rw [hrun, Pass.run_start_none, result_find_eq_ofType false hnames]
    decide +kernel
  . exact (hroot "IUnknown").2 ⟨"IUnknown", .refl, by decide⟩

end WastefulVirtual
end Footprint
