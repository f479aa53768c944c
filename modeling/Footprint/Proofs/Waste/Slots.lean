import Footprint.Proofs.Snapshot.Check
import Footprint.Proofs.Waste.WastefulVirtual

/-!
This module contains which slots the types of a snapshot waste, told from what they declare and from
which names they reach. The main result is that the search for wasteful virtual functions finds
exactly these, however the types derive from each other, as long as no product reaches the limit.
-/

namespace Footprint

variable {types : List UserDefinedType} {t : UserDefinedType} {f : MemberFunction}
  {function : String}

def MemberFunction.IsDestructor (f : MemberFunction) : Prop :=
  '~' ∈ f.name.toList

def UserDefinedType.DeclaresVirtual (t : UserDefinedType) (function : String) : Prop :=
  ∃ f ∈ t.functions, f.isVirtual = true ∧ f.isStatic = false ∧ f.name = function

def UserDefinedType.Overrides (t : UserDefinedType) (function : String) : Prop :=
  ∃ f ∈ t.functions,
    f.isVirtual = true ∧ f.isStatic = false ∧ f.isPure = false ∧ f.name = function

instance : Decidable f.IsDestructor :=
  inferInstanceAs (Decidable ('~' ∈ f.name.toList))

instance : Decidable (t.DeclaresVirtual function) :=
  inferInstanceAs (Decidable (∃ f ∈ t.functions, _))

instance : Decidable (t.Overrides function) :=
  inferInstanceAs (Decidable (∃ f ∈ t.functions, _))

theorem any_isVirtualMember_iff
    : t.functions.any (fun f => f.isVirtualMember && f.name = function) = true
        ↔ t.DeclaresVirtual function := by
  simp only [UserDefinedType.DeclaresVirtual, MemberFunction.isVirtualMember, List.any_eq_true,
    Bool.and_eq_true, Bool.not_eq_true', decide_eq_true_eq, and_assoc]

theorem any_isVirtualMember_not_isPure_iff
    : t.functions.any (fun f => f.isVirtualMember && !f.isPure && f.name = function) = true
        ↔ t.Overrides function := by
  simp only [UserDefinedType.Overrides, MemberFunction.isVirtualMember, List.any_eq_true,
    Bool.and_eq_true, Bool.not_eq_true', decide_eq_true_eq, and_assoc]

def Introduces (types : List UserDefinedType) (t : UserDefinedType) (f : MemberFunction) : Prop :=
  f.isVirtual = true ∧ f.isStatic = false ∧ ¬f.IsDestructor
    ∧ (∀ base ∈ types, IsBaseOf types base.name t.name → ¬base.DeclaresVirtual f.name)
    ∧ ∃ d ∈ types, IsBaseOf types t.name d.name

instance : Decidable (Introduces types t f) :=
  inferInstanceAs (Decidable (_ ∧ _ ∧ _ ∧ _ ∧ _))

def IsCom (types : List UserDefinedType) (name : String) : Prop :=
  isComTypeName name = true ∨ ∃ base, IsBaseOf types base name ∧ isComTypeName base = true

def introduced (types : List UserDefinedType) (t : UserDefinedType) : List MemberFunction :=
  t.functions.filter (Introduces types t ·)

def overridersOf (types : List UserDefinedType) (t : UserDefinedType) (function : String)
    : List UserDefinedType :=
  (derivedFrom types t.name).filter (·.Overrides function)

def singleOverrides (types : List UserDefinedType) (t : UserDefinedType) : List WastedOverride :=
  (introduced types t).flatMap fun f =>
    if f.isPure = true ∧ (overridersOf types t f.name).length = 1 then
      (overridersOf types t f.name).map fun d => ⟨d.name, f.name⟩
    else []

def unusedVirtuals (types : List UserDefinedType) (t : UserDefinedType) : List WastedOverride :=
  (introduced types t).flatMap fun f =>
    if f.isPure = false ∧ overridersOf types t f.name = [] then [⟨t.name, f.name⟩] else []

theorem isCom_iff {name : String}
    : (isComTypeName name || (transitiveBases types name).any isComTypeName) = true
        ↔ IsCom types name := by
  unfold IsCom
  simp only [Bool.or_eq_true, List.any_eq_true, mem_transitiveBases]

instance {name : String} : Decidable (IsCom types name) :=
  decidable_of_iff _ isCom_iff

def WastefulVirtual.ofType (s : Snapshot) (t : UserDefinedType) : WastefulVirtual where
  typeName := t.name
  isComType := IsCom s.userDefinedTypes t.name
  bytesPerWord := s.bytesPerWord
  derivedTypes := (derivedFrom s.userDefinedTypes t.name).map (·.name)
  pureOverriddenOnce := singleOverrides s.userDefinedTypes t
  neverOverridden := unusedVirtuals s.userDefinedTypes t

def wastesSlots (excludeComTypes : Bool) (types : List UserDefinedType) (t : UserDefinedType)
    : Bool :=
  !(singleOverrides types t ++ unusedVirtuals types t).isEmpty
    && !(excludeComTypes && IsCom types t.name)

namespace Hierarchy

theorem firstPassing_eq_take (test : String → Bool) (enough : Nat) (names : List String)
    : firstPassing test enough names = (names.filter test).take enough := by
  induction names generalizing enough with
  | nil => cases enough <;> rfl
  | cons name names ih =>
    cases enough with
    | zero => rfl
    | succ enough =>
      unfold firstPassing
      by_cases htest : test name = true
      . rw [if_pos htest, ih, List.filter_cons_of_pos htest, List.take_succ_cons]
      . rw [if_neg htest, ih, List.filter_cons_of_neg htest]

theorem isComType_ofTypes (types : List UserDefinedType) (name : String)
    : (ofTypes types).isComType name = decide (IsCom types name) := by
  unfold isComType
  rw [basesOf_ofTypes, Bool.eq_iff_iff, decide_eq_true_iff]
  exact isCom_iff

section OfTypes

variable (hnames : (types.map (·.name)).Nodup)

include hnames

theorem any_functionsOf_eq_true_iff (p : MemberFunction → Bool) (name : String)
    : ((ofTypes types).functionsOf name).any p = true
        ↔ ∃ t ∈ types, t.name = name ∧ t.functions.any p = true := by
  constructor
  . intro h
    cases hfind : types.find? (·.name = name) with
    | none =>
      unfold functionsOf ofTypes at h
      rw [hfind] at h
      cases h
    | some t =>
      obtain ⟨ht, rfl⟩ := (find?_key_eq_some_iff hnames).1 hfind
      rw [functionsOf_ofTypes hnames ht] at h
      exact ⟨t, ht, rfl, h⟩
  . rintro ⟨t, ht, rfl, h⟩
    rw [functionsOf_ofTypes hnames ht]
    exact h

theorem isInherited_ofTypes_iff (t : UserDefinedType)
    : (ofTypes types).isInherited t.name function = true
        ↔ ∃ base ∈ types, IsBaseOf types base.name t.name ∧ base.DeclaresVirtual function := by
  unfold isInherited
  rw [basesOf_ofTypes, List.any_eq_true]
  simp only [any_functionsOf_eq_true_iff hnames, any_isVirtualMember_iff, mem_transitiveBases]
  constructor
  . rintro ⟨_, hbase, base, hmem, rfl, hdeclares⟩
    exact ⟨base, hmem, hbase, hdeclares⟩
  . rintro ⟨base, hmem, hbase, hdeclares⟩
    exact ⟨base.name, hbase, base, hmem, rfl, hdeclares⟩

theorem overriders_ofTypes (t : UserDefinedType) (function : String)
    : (ofTypes types).overriders t.name function
        = ((overridersOf types t function).map (·.name)).take 2 := by
  unfold overriders overridersOf
  rw [firstPassing_eq_take, derivedOf_ofTypes hnames, List.filter_map]
  congr 2
  apply List.filter_congr
  intro d hd
  have hd := (mem_derivedFrom.1 hd).1
  rw [Function.comp_apply, functionsOf_ofTypes hnames hd, Bool.eq_iff_iff,
    any_isVirtualMember_not_isPure_iff, decide_eq_true_iff]

theorem introducedBy_ofTypes (t : UserDefinedType)
    : (ofTypes types).introducedBy t = introduced types t := by
  unfold introducedBy introduced
  apply List.filter_congr
  intro f _
  have hnew : (!(ofTypes types).isInherited t.name f.name) = true
      ↔ ∀ base ∈ types, IsBaseOf types base.name t.name → ¬base.DeclaresVirtual f.name := by
    rw [Bool.not_eq_true', Bool.eq_false_iff, ne_eq, isInherited_ofTypes_iff hnames]
    simp only [not_exists, not_and]
  have hderived : (!((ofTypes types).derivedOf t.name).isEmpty) = true
      ↔ ∃ d ∈ types, IsBaseOf types t.name d.name := by
    rw [derivedOf_ofTypes hnames, List.isEmpty_map, Bool.not_eq_true', List.isEmpty_eq_false_iff]
    exact derivedFrom_ne_nil_iff
  rw [Bool.eq_iff_iff, decide_eq_true_iff, Bool.and_eq_true, Bool.and_eq_true, hnew, hderived]
  simp only [Introduces, MemberFunction.isVirtualNonDestructor, MemberFunction.isVirtualMember,
    MemberFunction.IsDestructor, Bool.and_eq_true, Bool.not_eq_true', String.contains_char_eq,
    decide_eq_false_iff_not, and_assoc]

theorem pureOverride?_ofTypes (t : UserDefinedType) (f : MemberFunction)
    : ((ofTypes types).pureOverride? t f).toList
        = if f.isPure = true ∧ (overridersOf types t f.name).length = 1 then
            (overridersOf types t f.name).map fun d => ⟨d.name, f.name⟩
          else [] := by
  unfold pureOverride?
  rw [overriders_ofTypes hnames]
  -- Whether there are two overriders or more makes no difference, so the search may stop at two.
  match overridersOf types t f.name with
  | [] => simp
  | [d] => by_cases hpure : f.isPure = true <;> simp [hpure]
  | d :: e :: rest => simp

theorem unusedVirtual?_ofTypes (t : UserDefinedType) (f : MemberFunction)
    : ((ofTypes types).unusedVirtual? t f).toList
        = if f.isPure = false ∧ overridersOf types t f.name = [] then [⟨t.name, f.name⟩]
          else [] := by
  unfold unusedVirtual?
  rw [overriders_ofTypes hnames]
  match overridersOf types t f.name with
  | [] => by_cases hpure : f.isPure = true <;> simp [hpure]
  | d :: rest => simp

theorem isCandidate_of_introduced_ne_nil (h : introduced types t ≠ [])
    : ((!((ofTypes types).derivedOf t.name).isEmpty || !((ofTypes types).basesOf t.name).isEmpty)
        && t.functions.any MemberFunction.isVirtualMember) = true := by
  have ⟨f, hf⟩ := List.exists_mem_of_ne_nil _ h
  have ⟨hmem, hintroduces⟩ := List.mem_filter.1 hf
  have ⟨hvirtual, hstatic, _, _, hderived⟩ := of_decide_eq_true hintroduces
  have hany : t.functions.any MemberFunction.isVirtualMember = true := by
    rw [List.any_eq_true]
    refine ⟨f, hmem, ?_⟩
    unfold MemberFunction.isVirtualMember
    rw [hvirtual, hstatic]
    rfl
  have hderived := derivedFrom_ne_nil_iff.2 hderived
  rw [hany, derivedOf_ofTypes hnames, List.isEmpty_map]
  simp [hderived]

end OfTypes
end Hierarchy

namespace WastefulVirtual

variable {s : Snapshot}

theorem foldl_keep (excludeComTypes : Bool) (item : UserDefinedType → WastefulVirtual)
    (start : List WastefulVirtual) (ts : List UserDefinedType)
    : ts.foldl (fun items t => keep excludeComTypes items (item t)) start
        = start ++ (ts.filter fun t =>
            !(decide ((item t).wastedSize = 0) || excludeComTypes && (item t).isComType)).map
              item := by
  induction ts generalizing start with
  | nil => simp
  | cons t ts ih =>
    rw [List.foldl_cons, ih, List.filter_cons]
    unfold keep
    by_cases hleft : (decide ((item t).wastedSize = 0) || excludeComTypes && (item t).isComType)
        = true
    . rw [if_pos hleft, hleft]
      rfl
    . rw [if_neg hleft, Bool.eq_false_iff.2 hleft]
      simp

theorem wasteOf_ofTypes (hnames : (s.userDefinedTypes.map (·.name)).Nodup) (t : UserDefinedType)
    : (Hierarchy.ofTypes s.userDefinedTypes).wasteOf s.bytesPerWord t = ofType s t := by
  unfold Hierarchy.wasteOf ofType singleOverrides unusedVirtuals
  rw [Hierarchy.introducedBy_ofTypes hnames, Hierarchy.isComType_ofTypes,
    Hierarchy.derivedOf_ofTypes hnames, List.filterMap_eq_flatMap_toList,
    List.filterMap_eq_flatMap_toList]
  simp only [Hierarchy.pureOverride?_ofTypes hnames, Hierarchy.unusedVirtual?_ofTypes hnames]

theorem introduced_ne_nil (h : singleOverrides types t ++ unusedVirtuals types t ≠ [])
    : introduced types t ≠ [] := by
  intro hnil
  apply h
  unfold singleOverrides unusedVirtuals
  rw [hnil]
  rfl

theorem exactPerSlot_ofType (s : Snapshot) (t : UserDefinedType)
    : (ofType s t).exactPerSlot
        = s.bytesPerWord * (1 + (derivedFrom s.userDefinedTypes t.name).length) := by
  simp [exactPerSlot, ofType]

theorem exactWaste_ofType (s : Snapshot) (t : UserDefinedType)
    : (ofType s t).exactWaste
        = s.bytesPerWord * (1 + (derivedFrom s.userDefinedTypes t.name).length)
          * (singleOverrides s.userDefinedTypes t
            ++ unusedVirtuals s.userDefinedTypes t).length := by
  rw [← exactPerSlot_ofType]
  rfl

def tellsWaste (excludeComTypes : Bool) (s : Snapshot) (t : UserDefinedType) : Bool :=
  wastesSlots excludeComTypes s.userDefinedTypes t && !decide (wordLimit ∣ (ofType s t).exactWaste)

theorem tellsWaste_eq (excludeComTypes : Bool) (s : Snapshot) (t : UserDefinedType)
    : tellsWaste excludeComTypes s t
        = !(decide ((ofType s t).wastedSize = 0) || excludeComTypes && (ofType s t).isComType) := by
  unfold tellsWaste wastesSlots
  have hsize : (ofType s t).wastedSize = 0 ↔ wordLimit ∣ (ofType s t).exactWaste := by
    rw [wastedSize_eq, Nat.dvd_iff_mod_eq_zero]
    rfl
  simp only [hsize]
  by_cases hdvd : wordLimit ∣ (ofType s t).exactWaste
  . simp [hdvd]
  . have hne : singleOverrides s.userDefinedTypes t ++ unusedVirtuals s.userDefinedTypes t
        ≠ [] := by
      intro hnil
      apply hdvd
      rw [exactWaste_ofType, hnil]
      exact Nat.dvd_zero _
    rw [List.isEmpty_eq_false_iff.2 hne, decide_eq_false hdvd]
    simp only [Bool.not_false, Bool.true_and, Bool.and_true, Bool.false_or]
    rfl

theorem filter_candidates {p : UserDefinedType → Bool} (hnames : (types.map (·.name)).Nodup)
    (hp : ∀ t, p t = true → wastesSlots false types t = true)
    : (Hierarchy.ofTypes types).candidates.filter p = types.filter p := by
  unfold Hierarchy.candidates
  rw [List.filter_filter]
  apply List.filter_congr
  intro t _
  rw [Bool.and_eq_left_iff_imp]
  -- What wastes slots has introduced some, and that makes it a candidate.
  intro hpasses
  apply Hierarchy.isCandidate_of_introduced_ne_nil hnames
  apply introduced_ne_nil
  intro hnil
  have hwastes := hp t hpasses
  unfold wastesSlots at hwastes
  rw [hnil] at hwastes
  cases hwastes

theorem wastesSlots_of_tellsWaste {excludeComTypes : Bool}
    (h : tellsWaste excludeComTypes s t = true)
    : wastesSlots false s.userDefinedTypes t = true := by
  unfold tellsWaste wastesSlots at h
  unfold wastesSlots
  simp only [Bool.and_eq_true] at h
  simpa using h.1.1

theorem foldl_keep_ofType (excludeComTypes : Bool)
    (hnames : (s.userDefinedTypes.map (·.name)).Nodup)
    : (Hierarchy.ofTypes s.userDefinedTypes).candidates.foldl (fun items t =>
          keep excludeComTypes items
            ((Hierarchy.ofTypes s.userDefinedTypes).wasteOf s.bytesPerWord t)) []
        = (s.userDefinedTypes.filter (tellsWaste excludeComTypes s)).map (ofType s) := by
  simp only [wasteOf_ofTypes hnames]
  rw [foldl_keep, List.nil_append]
  simp only [← tellsWaste_eq]
  rw [filter_candidates hnames fun t => wastesSlots_of_tellsWaste]

theorem result_find_eq_ofType (excludeComTypes : Bool)
    (hnames : (s.userDefinedTypes.map (·.name)).Nodup)
    : (find excludeComTypes s).result
        = .ok ((s.userDefinedTypes.filter (tellsWaste excludeComTypes s)).map (ofType s)) := by
  rw [result_find excludeComTypes s (Hierarchy.result_load _), foldl_keep_ofType _ hnames]

/-- Whether the search multiplies nothing for a type of a snapshot that reaches the limit. -/
def SlotsInRange (s : Snapshot) : Prop :=
  ∀ t ∈ (Hierarchy.ofTypes s.userDefinedTypes).candidates, (ofType s t).InRange

instance : Decidable (SlotsInRange s) :=
  inferInstanceAs (Decidable (∀ t ∈ _, _))

theorem result_run_findChecked (excludeComTypes : Bool)
    (hnames : (s.userDefinedTypes.map (·.name)).Nodup)
    : (findChecked excludeComTypes s).run.result
        = if SlotsInRange s then (find excludeComTypes s).result.map some else .ok none := by
  rw [result_findChecked excludeComTypes s (Hierarchy.result_load _),
    result_find excludeComTypes s (Hierarchy.result_load _)]
  simp only [wasteOf_ofTypes hnames]
  by_cases hrange : SlotsInRange s
  . rw [if_pos hrange]
    exact congrArg Except.ok (if_pos hrange)
  . rw [if_neg hrange]
    exact congrArg Except.ok (if_neg hrange)

def tangledTypes : List UserDefinedType := [
  { name := "Root", baseTypes := ["IUnknown"], functions := [
      { name := "unused", isVirtual := true },
      { name := "once", isVirtual := true, isPure := true },
      { name := "twice", isVirtual := true, isPure := true },
      { name := "~Root", isVirtual := true }] },
  { name := "Left", baseTypes := ["Root"], functions := [
      { name := "once", isVirtual := true }, { name := "twice", isVirtual := true }] },
  { name := "Right", baseTypes := ["Root", "Right"], functions := [
      { name := "twice", isVirtual := true }] },
  { name := "Bottom", baseTypes := ["Left", "Right"] },
  { name := "Loop", baseTypes := ["Pool"], functions := [
      { name := "turn", isVirtual := true }] },
  { name := "Pool", baseTypes := ["Loop"] }]

end WastefulVirtual
end Footprint
