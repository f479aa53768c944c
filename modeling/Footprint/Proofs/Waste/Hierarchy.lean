import Footprint.Proofs.Pass
import Footprint.Proofs.Roster
import Footprint.Waste.Hierarchy
import Mathlib.Data.List.Induction

namespace Footprint

variable {types : List UserDefinedType} {start name base : String} {found pending : List String}

theorem mem_directBases_iff (hnames : (types.map (·.name)).Nodup)
    : base ∈ directBases types name ↔ ∃ t ∈ types, t.name = name ∧ base ∈ t.baseTypes := by
  unfold directBases
  constructor
  . intro h
    cases hfind : types.find? (·.name = name) with
    | none => simp [hfind] at h
    | some t =>
      have ⟨ht, hname⟩ := (find?_key_eq_some_iff hnames).1 hfind
      rw [hfind] at h
      exact ⟨t, ht, hname, h⟩
  . intro ⟨t, ht, hname, hbase⟩
    rw [(find?_key_eq_some_iff hnames).2 ⟨ht, hname⟩]
    exact hbase

inductive Reaches (types : List UserDefinedType) (start : String) : String → Prop where
  | direct {base : String} : base ∈ directBases types start → Reaches types start base
  | further {name base : String} : Reaches types start name → base ∈ directBases types name
      → Reaches types start base

def IsBaseOf (types : List UserDefinedType) (base name : String) : Prop :=
  base ≠ name ∧ Reaches types name base

section Search

theorem isBaseOf_of_mem_newNames (hstart : name = start ∨ Reaches types start name)
    (h : base ∈ newNames start found (directBases types name))
    : IsBaseOf types base start := by
  obtain ⟨hdirect, hne, _⟩ := mem_newNames.1 h
  rcases hstart with rfl | hreach
  . exact ⟨hne, .direct hdirect⟩
  . exact ⟨hne, .further hreach hdirect⟩

theorem isBaseOf_of_mem_searchBases (hfound : ∀ b ∈ found, IsBaseOf types b start)
    (hpending : ∀ b ∈ pending, b = start ∨ Reaches types start b)
    (h : base ∈ searchBases types start found pending)
    : IsBaseOf types base start := by
  -- Every step keeps it that all that is found or pending can be reached.
  induction found, pending using searchBases.induct types start with
  | case1 found =>
    unfold searchBases at h
    exact hfound base h
  | case2 found current rest new ih =>
    unfold searchBases at h
    have hcurrent := hpending current List.mem_cons_self
    apply ih _ _ h
    . intro b hb
      rcases List.mem_append.1 hb with hb | hb
      . exact hfound b hb
      . exact isBaseOf_of_mem_newNames hcurrent hb
    . intro b hb
      rcases List.mem_append.1 hb with hb | hb
      . exact .inr (isBaseOf_of_mem_newNames hcurrent (List.mem_reverse.1 hb)).2
      . exact hpending b (List.mem_cons_of_mem current hb)

def Expanded (types : List UserDefinedType) (start : String) (found : List String) (name : String)
    : Prop :=
  ∀ b ∈ directBases types name, b = start ∨ b ∈ found

theorem Expanded.append (h : Expanded types start found name) (new : List String)
    : Expanded types start (found ++ new) name := by
  intro b hb
  rcases h b hb with heq | hmem
  . exact .inl heq
  . exact .inr (List.mem_append_left new hmem)

theorem expanded_newNames (types : List UserDefinedType) (start : String) (found : List String)
    (name : String)
    : Expanded types start (found ++ newNames start found (directBases types name)) name := by
  intro b hb
  by_cases hb' : b = start ∨ b ∈ found
  . rcases hb' with heq | hmem
    . exact .inl heq
    . exact .inr (List.mem_append_left _ hmem)
  . rw [not_or] at hb'
    exact .inr (List.mem_append_right found (mem_newNames.2 ⟨hb, hb'.1, hb'.2⟩))

theorem expanded_searchBases
    (h : ∀ b, b = start ∨ b ∈ found → b ∈ pending ∨ Expanded types start found b)
    : ∀ b, b = start ∨ b ∈ searchBases types start found pending
      → Expanded types start (searchBases types start found pending) b := by
  -- What is found is pending or expanded, and in the end nothing is pending.
  induction found, pending using searchBases.induct types start with
  | case1 found =>
    unfold searchBases
    intro b hb
    rcases h b hb with hpending | hexpanded
    . cases hpending
    . exact hexpanded
  | case2 found current rest new ih =>
    unfold searchBases
    apply ih
    intro b hb
    by_cases hnew : b ∈ new
    . exact .inl (List.mem_append_left rest (List.mem_reverse.2 hnew))
    . have hold : b = start ∨ b ∈ found := by
        rcases hb with heq | hmem
        . exact .inl heq
        . exact .inr ((List.mem_append.1 hmem).resolve_right hnew)
      rcases h b hold with hpending | hexpanded
      . rcases List.mem_cons.1 hpending with rfl | hrest
        . exact .inr (expanded_newNames types start found b)
        . exact .inl (List.mem_append_right _ hrest)
      . exact .inr (hexpanded.append new)

theorem mem_transitiveBases : base ∈ transitiveBases types name ↔ IsBaseOf types base name := by
  unfold transitiveBases
  constructor
  . intro h
    apply isBaseOf_of_mem_searchBases _ _ h
    . simp
    . simp
  . intro ⟨hne, hreach⟩
    have hclosed : ∀ b, b = name ∨ b ∈ searchBases types name [] [name]
        → Expanded types name (searchBases types name [] [name]) b := by
      apply expanded_searchBases
      simp
    have hall : base = name ∨ base ∈ searchBases types name [] [name] := by
      clear hne
      induction hreach with
      | direct hdirect => exact hclosed name (.inl rfl) _ hdirect
      | further _ hdirect ih => exact hclosed _ ih _ hdirect
    exact hall.resolve_left hne

theorem directBases_eq_nil (h : name ∉ types.map (·.name)) : directBases types name = [] := by
  have hfind : types.find? (·.name = name) = none := by
    rw [List.find?_eq_none]
    intro t ht heq
    rw [decide_eq_true_iff] at heq
    exact h (heq ▸ List.mem_map_of_mem ht)
  unfold directBases
  rw [hfind]
  rfl

theorem transitiveBases_eq_nil (h : name ∉ types.map (·.name))
    : transitiveBases types name = [] := by
  unfold transitiveBases searchBases
  rw [directBases_eq_nil h]
  simp [newNames, firstSeen, searchBases]

instance : Decidable (IsBaseOf types base name) :=
  decidable_of_iff _ mem_transitiveBases

end Search

def derivedFrom (types : List UserDefinedType) (base : String) : List UserDefinedType :=
  types.filter (IsBaseOf types base ·.name)

theorem mem_derivedFrom {t : UserDefinedType}
    : t ∈ derivedFrom types base ↔ t ∈ types ∧ IsBaseOf types base t.name := by
  unfold derivedFrom
  rw [List.mem_filter, decide_eq_true_iff]

theorem derivedFrom_ne_nil_iff
    : derivedFrom types base ≠ [] ↔ ∃ t ∈ types, IsBaseOf types base t.name := by
  unfold derivedFrom
  rw [ne_eq, List.filter_eq_nil_iff]
  simp

namespace Hierarchy

section Derived

variable {derived : Roster String (List String)} {type : String}

theorem getD_find?_addDerived (type base name : String) (derived : Roster String (List String))
    : ((addDerived type derived base).find? name).getD []
        = if name = base ∧ type ∉ (derived.find? name).getD []
          then (derived.find? name).getD [] ++ [type]
          else (derived.find? name).getD [] := by
  unfold addDerived
  rw [Roster.find?_insert]
  by_cases hname : name = base
  . subst hname
    simp only [if_true, Option.getD_some, true_and]
    by_cases hmem : type ∈ (derived.find? name).getD []
    . rw [if_pos hmem, if_neg (not_not.2 hmem)]
    . rw [if_neg hmem, if_pos hmem]
  . simp only [hname, if_false, false_and]

theorem getD_find?_foldl_addDerived (type name : String) (names : List String)
    (derived : Roster String (List String))
    : ((names.foldl (addDerived type) derived).find? name).getD []
        = if name ∈ names ∧ type ∉ (derived.find? name).getD []
          then (derived.find? name).getD [] ++ [type]
          else (derived.find? name).getD [] := by
  induction names generalizing derived with
  | nil => simp
  | cons base names ih =>
    rw [List.foldl_cons, ih, getD_find?_addDerived]
    by_cases hmem : type ∈ (derived.find? name).getD []
    . simp [hmem]
    . by_cases hbase : name = base
      . subst hbase
        simp [hmem]
      . simp [hbase]

theorem getD_find?_foldl_foldl_addDerived (bases : UserDefinedType → List String) (name : String)
    (ts : List UserDefinedType)
    : ((ts.foldl (fun derived t => (bases t).foldl (addDerived t.name) derived) .empty).find?
        name).getD []
        = firstSeen ((ts.filter (name ∈ bases ·)).map (·.name)) := by
  induction ts using List.reverseRecOn with
  | nil => rfl
  | append_singleton ts t ih =>
    rw [List.foldl_append, List.foldl_cons, List.foldl_nil, getD_find?_foldl_addDerived, ih,
      List.filter_append, List.map_append]
    by_cases hname : name ∈ bases t
    . simp only [hname, true_and, mem_firstSeen, List.filter_cons, decide_true, if_true,
        List.filter_nil, List.map_cons, List.map_nil, firstSeen_append_singleton]
      rw [ite_not]
    . simp [hname]

end Derived

def ofTypes (types : List UserDefinedType) : Hierarchy where
  types
  bases := types.map fun t => (t.name, transitiveBases types t.name)
  derived := (types.map fun t => (t.name, transitiveBases types t.name)).foldl
    (fun derived (name, names) => names.foldl (addDerived name) derived) .empty

theorem result_load (types : List UserDefinedType) : (load types).result = .ok (ofTypes types) := by
  have hbases : types.mapM (m := Except AnalysisError)
      (fun t => .ok (t.name, transitiveBases types t.name))
        = .ok (types.map fun t => (t.name, transitiveBases types t.name)) := List.mapM_pure
  unfold load
  rw [Pass.result_bind, Sweep.result_mapEach, hbases]
  dsimp only [Except.bind]
  rw [Pass.result_bind, Sweep.result_run _ fun sweep _ => Sweep.exists_result_advance sweep 1,
    Except.foldlM_eq_ok fun derived type => rfl]
  rfl

section OfTypes

variable {t : UserDefinedType}

theorem lookup_map_name {α : Type} (make : String → α) (ts : List UserDefinedType) (name : String)
    : (ts.map fun t => (t.name, make t.name)).lookup name
        = if name ∈ ts.map (·.name) then some (make name) else none := by
  induction ts with
  | nil => rfl
  | cons t ts ih =>
    by_cases hname : name = t.name
    . simp [hname]
    . simp [List.lookup_cons, beq_false_of_ne hname, ih, hname]

theorem basesOf_ofTypes (types : List UserDefinedType) (name : String)
    : (ofTypes types).basesOf name = transitiveBases types name := by
  unfold basesOf ofTypes
  rw [lookup_map_name]
  split
  . rfl
  . next hunrecorded =>
    rw [transitiveBases_eq_nil hunrecorded]
    rfl

theorem derivedOf_ofTypes (hnames : (types.map (·.name)).Nodup) (name : String)
    : (ofTypes types).derivedOf name = (derivedFrom types name).map (·.name) := by
  have hfilter : types.filter (name ∈ transitiveBases types ·.name) = derivedFrom types name := by
    unfold derivedFrom
    simp only [mem_transitiveBases]
  unfold derivedOf ofTypes
  rw [List.foldl_map]
  dsimp only
  rw [getD_find?_foldl_foldl_addDerived (fun t => transitiveBases types t.name), hfilter]
  apply firstSeen_of_nodup
  exact hnames.sublist (List.filter_sublist.map _)

theorem functionsOf_ofTypes (hnames : (types.map (·.name)).Nodup) (ht : t ∈ types)
    : (ofTypes types).functionsOf t.name = t.functions := by
  have hfind : types.find? (·.name = t.name) = some t := by
    rw [find?_key_eq_some_iff hnames]
    exact ⟨ht, rfl⟩
  unfold functionsOf ofTypes
  rw [hfind]
  rfl

end OfTypes
end Hierarchy
end Footprint
