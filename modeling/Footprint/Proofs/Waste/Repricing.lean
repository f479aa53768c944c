import Footprint.Proofs.Analysis
import Footprint.Proofs.Comparison
import Footprint.Proofs.Waste.SlotChanges
import Footprint.Proofs.Waste.Slots

namespace Footprint

def Snapshot.DeclaresOnce (s : Snapshot) (typeName : String) : Prop :=
  ∀ t ∈ s.userDefinedTypes, t.name = typeName
    → ((t.functions.filter (·.isVirtualMember)).map (·.name)).Nodup

instance (s : Snapshot) (typeName : String) : Decidable (s.DeclaresOnce typeName) :=
  inferInstanceAs (Decidable (∀ t ∈ s.userDefinedTypes, _))

namespace WastefulVirtual

variable {s : Snapshot} {types : List UserDefinedType} {t : UserDefinedType}

theorem introduced_sublist (types : List UserDefinedType) (t : UserDefinedType)
    : (introduced types t).Sublist (t.functions.filter (·.isVirtualMember)) := by
  apply List.monotone_filter_right
  intro f hf
  have ⟨hvirtual, hstatic, _⟩ := of_decide_eq_true hf
  simp [MemberFunction.isVirtualMember, hvirtual, hstatic]

theorem map_function_singleOverrides (types : List UserDefinedType) (t : UserDefinedType)
    : (singleOverrides types t).map (·.function)
        = ((introduced types t).filter fun f =>
            f.isPure = true ∧ (overridersOf types t f.name).length = 1).map (·.name) := by
  unfold singleOverrides
  induction introduced types t with
  | nil => rfl
  | cons f fs ih =>
    rw [List.flatMap_cons, List.map_append, ih, List.filter_cons]
    split
    . next hsingle =>
      obtain ⟨d, hd⟩ := List.length_eq_one_iff.1 hsingle.2
      simp [hd, hsingle]
    . next hnot => simp [hnot]

theorem map_function_unusedVirtuals (types : List UserDefinedType) (t : UserDefinedType)
    : (unusedVirtuals types t).map (·.function)
        = ((introduced types t).filter fun f =>
            f.isPure = false ∧ overridersOf types t f.name = []).map (·.name) := by
  unfold unusedVirtuals
  induction introduced types t with
  | nil => rfl
  | cons f fs ih =>
    rw [List.flatMap_cons, List.map_append, ih, List.filter_cons]
    split
    . next hunused => simp [hunused]
    . next hnot => simp [hnot]

theorem nodup_overrides_ofType
    (h : ((t.functions.filter (·.isVirtualMember)).map (·.name)).Nodup)
    : (ofType s t).overrides.Nodup := by
  have hnames := h.sublist ((introduced_sublist s.userDefinedTypes t).map (·.name))
  apply List.Nodup.of_map (·.function)
  show ((singleOverrides _ t ++ unusedVirtuals _ t).map (·.function)).Nodup
  rw [List.map_append, map_function_singleOverrides, map_function_unusedVirtuals,
    List.nodup_append]
  refine ⟨hnames.sublist (List.filter_sublist.map _), hnames.sublist (List.filter_sublist.map _),
    ?_⟩
  -- What is overridden once is pure, and what is never overridden is not.
  rintro name hname _ hother rfl
  obtain ⟨f, hf, hfname⟩ := List.mem_map.1 hname
  obtain ⟨g, hg, hgname⟩ := List.mem_map.1 hother
  have ⟨hfmem, hpure⟩ := List.mem_filter.1 hf
  have ⟨hgmem, himpure⟩ := List.mem_filter.1 hg
  obtain rfl := List.inj_on_of_nodup_map hnames hfmem hgmem (hfname.trans hgname.symm)
  have hpure := (of_decide_eq_true hpure).1
  rw [(of_decide_eq_true himpure).1] at hpure
  cases hpure

end WastefulVirtual

section Snapshots

variable {s t : Snapshot} {x y : Analysis} {c : Comparison} {options : AnalysisOptions}
  {similarity : Similarity} {v w : WastefulVirtual}

theorem exists_ofType_of_mem (hs : s.check = .ok ())
    (hx : (s.analyze options similarity).result = .ok x) (hv : v ∈ x.wastefulVirtuals)
    : ∃ u ∈ s.userDefinedTypes, v = .ofType s u := by
  have ⟨_, hnames, _⟩ := Snapshot.check_eq_ok.1 hs
  have hfind := (Snapshot.makes_of_result_analyze hx).wastefulVirtuals
  rw [WastefulVirtual.result_find_eq_ofType _ (hnames .userDefinedType)] at hfind
  rw [← Except.ok.inj hfind] at hv
  obtain ⟨u, hu, rfl⟩ := List.mem_map.1 hv
  exact ⟨u, List.mem_of_mem_filter hu, rfl⟩

theorem bytesPerWord_of_mem (hs : s.check = .ok ())
    (hx : (s.analyze options similarity).result = .ok x) (hv : v ∈ x.wastefulVirtuals)
    : v.bytesPerWord = s.bytesPerWord := by
  obtain ⟨u, _, rfl⟩ := exists_ofType_of_mem hs hx hv
  rfl

theorem nodup_derivedTypes_of_mem (hs : s.check = .ok ())
    (hx : (s.analyze options similarity).result = .ok x) (hv : v ∈ x.wastefulVirtuals)
    : v.derivedTypes.Nodup := by
  obtain ⟨u, _, rfl⟩ := exists_ofType_of_mem hs hx hv
  have hnames := (Snapshot.check_eq_ok.1 hs).2.1 .userDefinedType
  exact hnames.sublist (List.filter_sublist.map _)

theorem nodup_overrides_of_mem (hs : s.check = .ok ())
    (hx : (s.analyze options similarity).result = .ok x) (hv : v ∈ x.wastefulVirtuals)
    (honce : s.DeclaresOnce v.typeName)
    : v.overrides.Nodup := by
  obtain ⟨u, hu, rfl⟩ := exists_ofType_of_mem hs hx hv
  exact WastefulVirtual.nodup_overrides_ofType (honce u hu rfl)

theorem mem_sides_of_mem_diff {before after : List WastefulVirtual}
    {diffs : List WastefulVirtualDiff} {d : WastefulVirtualDiff}
    (h : WastefulVirtual.diff before after = .ok diffs) (hd : d ∈ diffs)
    (hdiff : d.diff = .both v w)
    : v ∈ before ∧ w ∈ after ∧ w.typeName = v.typeName ∧ d = .ofDiff (.both v w) := by
  obtain ⟨pairs, hpairs, rfl⟩ := WastefulVirtualDiff.diff_eq_ok_iff.1 h
  obtain ⟨pair, hpair, rfl⟩ := List.mem_map.1 (List.mem_of_mem_filter hd)
  rw [WastefulVirtualDiff.diff_ofDiff] at hdiff
  subst hdiff
  have ⟨hbefore, hafter⟩ := sides_of_mem hpairs hpair
  have hfound : after.find? (·.typeName = v.typeName) = some w := hafter.symm
  have hname := List.find?_some hfound
  exact ⟨List.mem_of_find?_eq_some hbefore.symm, List.mem_of_find?_eq_some hfound,
    of_decide_eq_true hname, rfl⟩

theorem wastedSizeDiff_of_same_price (hv : v.derivedTypes.Nodup) (hw : w.derivedTypes.Nodup)
    (hsame : (Diff.both v w).SameSlots)
    (hprice : v.bytesPerWord * v.overrides.length = w.bytesPerWord * w.overrides.length)
    : (Diff.both v w).wastedSizeDiff = 0 := by
  have hlength := WastefulVirtualDiff.length_eq_of_toFinset_eq hv hw hsame.2
  have hwaste : v.exactWaste = w.exactWaste := by
    unfold WastefulVirtual.exactWaste WastefulVirtual.exactPerSlot
    rw [hlength, Nat.mul_right_comm, hprice, Nat.mul_right_comm]
  show Quantity.delta v.wastedSize w.wastedSize = 0
  rw [v.wastedSize_eq, w.wastedSize_eq, hwaste]
  exact Int.sub_self _

theorem WastefulVirtualDiff.changes_eq_nil_iff
    : ((ofDiff (.both v w)).hierarchyChanges = [] ∧ (ofDiff (.both v w)).overrideChanges = [])
        ↔ (Diff.both v w).SameSlots := by
  simp only [Diff.SameSlots, toFinset_eq_iff_lacking, ofDiff, changeAll, List.append_eq_nil_iff,
    List.map_eq_nil_iff]
  exact and_comm

theorem WastefulVirtualDiff.changes_listed_unless_repriced {m : Monitor} (hs : s.check = .ok ())
    (ht : t.check = .ok ()) (hc : (compareSnapshots s t options similarity m).1 = .ok c)
    {d : WastefulVirtualDiff} (hd : d ∈ c.wastefulVirtuals) (hdiff : d.diff = .both v w)
    (hchanged : d.wastedSizeDiff ≠ 0)
    : ((d.hierarchyChanges = [] ∧ d.overrideChanges = []) ↔ d.diff.SameSlots)
      ∧ (d.diff.SameSlots
        → s.bytesPerWord * v.overrides.length ≠ t.bytesPerWord * w.overrides.length)
      ∧ (s.bytesPerWord = t.bytesPerWord → s.DeclaresOnce v.typeName → t.DeclaresOnce v.typeName
        → d.hierarchyChanges ≠ [] ∨ d.overrideChanges ≠ []) := by
  have ⟨x, y, hx, hy, hresult⟩ := exists_result_of_compareSnapshots hc
  have hpairs := Comparison.pairs_of_result hresult
  obtain ⟨hv, hw, hname, rfl⟩ := mem_sides_of_mem_diff hpairs.wastefulVirtuals hd hdiff
  have hwordBefore := bytesPerWord_of_mem hs hx hv
  have hwordAfter := bytesPerWord_of_mem ht hy hw
  have htypesBefore := nodup_derivedTypes_of_mem hs hx hv
  have htypesAfter := nodup_derivedTypes_of_mem ht hy hw
  rw [hdiff]
  have hrepriced (hsame : (Diff.both v w).SameSlots)
      : s.bytesPerWord * v.overrides.length ≠ t.bytesPerWord * w.overrides.length := by
    rw [← hwordBefore, ← hwordAfter]
    intro hprice
    exact hchanged (wastedSizeDiff_of_same_price htypesBefore htypesAfter hsame hprice)
  refine ⟨changes_eq_nil_iff, hrepriced, ?_⟩
  intro hword honceBefore honceAfter
  by_contra hnone
  rw [not_or, not_not, not_not, changes_eq_nil_iff] at hnone
  -- With the same word size and the same slots, both builds pay the same.
  apply hrepriced hnone
  have hoverridesBefore := nodup_overrides_of_mem hs hx hv honceBefore
  have hoverridesAfter := nodup_overrides_of_mem ht hy hw (hname ▸ honceAfter)
  rw [hword, length_eq_of_toFinset_eq hoverridesBefore hoverridesAfter hnone.1]

def shapeBuild (word : Nat) (derivedTypes functions : List String) : Snapshot where
  bytesPerWord := word
  userDefinedTypes :=
    { name := "Shape", functions := functions.map fun name => { name, isVirtual := true } }
      :: derivedTypes.map fun name => { name, baseTypes := ["Shape"] }

def wastefulShape (word : Nat) (derivedTypes functions : List String) : WastefulVirtual where
  typeName := "Shape"
  isComType := false
  bytesPerWord := word
  derivedTypes := derivedTypes
  pureOverriddenOnce := []
  neverOverridden := functions.map (⟨"Shape", ·⟩)

theorem result_find_shapeBuild
    : ∀ b ∈ [(4, ["Circle"], ["draw"]), (8, ["Circle"], ["draw"]),
          (8, ["Circle", "Square"], ["draw"]), (8, ["Circle"], ["draw", "draw"])],
        (WastefulVirtual.find false (shapeBuild b.1 b.2.1 b.2.2)).result
          = .ok [wastefulShape b.1 b.2.1 b.2.2] := by
  intro b hb
  simp only [List.mem_cons, List.not_mem_nil, or_false] at hb
  obtain rfl | rfl | rfl | rfl := hb
  all_goals
    rw [WastefulVirtual.result_find_eq_ofType false (by decide)]
    decide +kernel

theorem result_analyze_shapeBuild {word : Nat} {types functions : List String}
    (h : (WastefulVirtual.find false (shapeBuild word types functions)).result
      = .ok [wastefulShape word types functions])
    : ((shapeBuild word types functions).analyze {} byteSimilarity).result
        = .ok ((shapeBuild word types functions).assemble [] [] [] [] []
          [wastefulShape word types functions]) := by
  rw [Snapshot.result_analyze]
  show ((WastefulVirtual.find false (shapeBuild word types functions)).result.bind fun _ => _) = _
  rw [h]
  rfl

theorem exists_comparison_shapeBuild {word word' : Nat}
    {types types' functions functions' : List String}
    (h : (WastefulVirtual.find false (shapeBuild word types functions)).result
      = .ok [wastefulShape word types functions])
    (h' : (WastefulVirtual.find false (shapeBuild word' types' functions')).result
      = .ok [wastefulShape word' types' functions'])
    {diffs : List WastefulVirtualDiff}
    (hdiffs : WastefulVirtual.diff [wastefulShape word types functions]
      [wastefulShape word' types' functions'] = .ok diffs)
    : ∃ c, (compareSnapshots (shapeBuild word types functions)
          (shapeBuild word' types' functions') {} byteSimilarity (.start none)).1 = .ok c
        ∧ c.wastefulVirtuals = diffs := by
  have hbefore := result_analyze_shapeBuild h
  have hafter := result_analyze_shapeBuild h'
  obtain ⟨c, hc, hvirtuals⟩ : ∃ c, (Comparison.ofAnalyses
      ((shapeBuild word types functions).assemble [] [] [] [] []
        [wastefulShape word types functions])
      ((shapeBuild word' types' functions').assemble [] [] [] [] []
        [wastefulShape word' types' functions'])).result = .ok c ∧ c.wastefulVirtuals = diffs := by
    unfold Comparison.ofAnalyses Snapshot.assemble
    simp only [Pass.result_bind, Pass.result_monadLift, hdiffs]
    exact ⟨_, rfl, rfl⟩
  exact ⟨c, compareSnapshots_of_result rfl rfl hbefore hafter hc, hvirtuals⟩

theorem WastefulVirtualDiff.changes_listed_unless_repriced_shapeBuild
    : (∃ c d, (compareSnapshots (shapeBuild 8 ["Circle"] ["draw"])
          (shapeBuild 8 ["Circle", "Square"] ["draw"]) {} byteSimilarity (.start none)).1 = .ok c
        ∧ d ∈ c.wastefulVirtuals ∧ d.wastedSizeDiff = 8
        ∧ (d.hierarchyChanges ≠ [] ∨ d.overrideChanges ≠ []))
      ∧ ∃ c d, (compareSnapshots (shapeBuild 4 ["Circle"] ["draw"])
          (shapeBuild 8 ["Circle"] ["draw"]) {} byteSimilarity (.start none)).1 = .ok c
        ∧ d ∈ c.wastefulVirtuals ∧ d.wastedSizeDiff = 8
        ∧ d.hierarchyChanges = [] ∧ d.overrideChanges = [] := by
  have hfind := result_find_shapeBuild
  constructor
  . obtain ⟨c, hc, hdiffs⟩ := exists_comparison_shapeBuild
      (hfind (8, ["Circle"], ["draw"]) (by decide))
      (hfind (8, ["Circle", "Square"], ["draw"]) (by decide)) rfl
    have hd : ofDiff (.both (wastefulShape 8 ["Circle"] ["draw"])
        (wastefulShape 8 ["Circle", "Square"] ["draw"])) ∈ c.wastefulVirtuals := by
      rw [hdiffs]
      decide
    have ⟨_, _, hlisted⟩ := changes_listed_unless_repriced rfl rfl hc hd rfl (by decide)
    exact ⟨c, _, hc, hd, rfl, hlisted rfl (by decide) (by decide)⟩
  . obtain ⟨c, hc, hdiffs⟩ := exists_comparison_shapeBuild
      (hfind (4, ["Circle"], ["draw"]) (by decide)) (hfind (8, ["Circle"], ["draw"]) (by decide))
      rfl
    have hd : ofDiff (.both (wastefulShape 4 ["Circle"] ["draw"])
        (wastefulShape 8 ["Circle"] ["draw"])) ∈ c.wastefulVirtuals := by
      rw [hdiffs]
      decide
    have ⟨hsame, _⟩ := changes_listed_unless_repriced rfl rfl hc hd rfl (by decide)
    exact ⟨c, _, hc, hd, rfl, hsame.2 ⟨rfl, rfl⟩⟩

def Comparison.HasUnlistedChange (c : Comparison) : Prop :=
  ∃ d ∈ c.wastefulVirtuals, d.diff.before?.isSome ∧ d.diff.after?.isSome ∧ d.wastedSizeDiff ≠ 0
    ∧ d.hierarchyChanges = [] ∧ d.overrideChanges = []

theorem WastefulVirtualDiff.unlisted_change_shapeBuild
    : (shapeBuild 4 ["Circle"] ["draw"]).check = .ok ()
      ∧ (shapeBuild 8 ["Circle"] ["draw"]).check = .ok ()
      ∧ (shapeBuild 8 ["Circle"] ["draw", "draw"]).check = .ok ()
      ∧ (∃ c, (compareSnapshots (shapeBuild 4 ["Circle"] ["draw"])
          (shapeBuild 8 ["Circle"] ["draw"]) {} byteSimilarity (.start none)).1 = .ok c
        ∧ c.HasUnlistedChange)
      ∧ ∃ c, (compareSnapshots (shapeBuild 8 ["Circle"] ["draw"])
          (shapeBuild 8 ["Circle"] ["draw", "draw"]) {} byteSimilarity (.start none)).1 = .ok c
        ∧ c.HasUnlistedChange := by
  have hfind := result_find_shapeBuild
  refine ⟨rfl, rfl, rfl, ?_, ?_⟩
  . obtain ⟨c, hc, hdiffs⟩ := exists_comparison_shapeBuild
      (hfind (4, ["Circle"], ["draw"]) (by decide)) (hfind (8, ["Circle"], ["draw"]) (by decide))
      rfl
    refine ⟨c, hc, ?_⟩
    unfold Comparison.HasUnlistedChange
    rw [hdiffs]
    decide
  . obtain ⟨c, hc, hdiffs⟩ := exists_comparison_shapeBuild
      (hfind (8, ["Circle"], ["draw"]) (by decide))
      (hfind (8, ["Circle"], ["draw", "draw"]) (by decide)) rfl
    refine ⟨c, hc, ?_⟩
    unfold Comparison.HasUnlistedChange
    rw [hdiffs]
    decide

end Snapshots

end Footprint
