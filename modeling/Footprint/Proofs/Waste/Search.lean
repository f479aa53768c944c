import Footprint.Proofs.Waste.Hierarchy
import Mathlib.Data.List.Perm.Basic
import Mathlib.Logic.Relation

namespace Footprint

variable {types : List UserDefinedType} {start name base : String}
  {found pending names rest : List String}

def NamesBase (types : List UserDefinedType) (name base : String) : Prop :=
  ∃ t ∈ types, t.name = name ∧ base ∈ t.baseTypes

/-- What a search for the bases of a type has found, and what is pending, the next name first. -/
structure Search where
  found : List String
  pending : List String
  deriving DecidableEq, Repr

namespace Search

def note (start : String) (s : Search) (base : String) : Search :=
  if base = start ∨ base ∈ s.found then s
  else { found := s.found ++ [base], pending := base :: s.pending }

def turn? (types : List UserDefinedType) (start : String) (s : Search) : Option (String × Search) :=
  match s.pending with
  | [] => none
  | current :: rest =>
    some (current, (directBases types current).foldl (note start) { s with pending := rest })

inductive Turns (types : List UserDefinedType) (start : String)
    : Search → List String → Search → Prop where
  | none (s : Search) : Turns types start s [] s
  | turn {s next last : Search} {current : String} {names : List String} :
    s.turn? types start = some (current, next) → Turns types start next names last
      → Turns types start s (current :: names) last

theorem newNames_append_singleton (start : String) (found names : List String) (name : String)
    : newNames start found (names ++ [name])
        = if name = start ∨ name ∈ found ++ newNames start found names then
            newNames start found names
          else newNames start found names ++ [name] := by
  unfold newNames
  rw [List.filter_append]
  by_cases hname : name ≠ start ∧ name ∉ found
  . rw [List.filter_cons_of_pos (by simpa using hname), List.filter_nil,
      firstSeen_append_singleton]
    simp [mem_firstSeen, hname.1, hname.2]
  . rw [List.filter_cons_of_neg (by simpa using hname), List.filter_nil, List.append_nil, if_pos]
    rw [not_and_or, not_not, not_not] at hname
    rcases hname with hstart | hfound
    . exact .inl hstart
    . exact .inr (List.mem_append_left _ hfound)

theorem foldl_note (start : String) (found pending names : List String)
    : names.foldl (note start) ⟨found, pending⟩
        = ⟨found ++ newNames start found names,
            (newNames start found names).reverse ++ pending⟩ := by
  induction names using List.reverseRecOn with
  | nil => simp [newNames, firstSeen]
  | append_singleton names name ih =>
    rw [List.foldl_append, List.foldl_cons, List.foldl_nil, ih, newNames_append_singleton]
    unfold note
    split
    . rfl
    . simp

theorem turn?_cons (types : List UserDefinedType) (start current : String)
    (found rest : List String)
    : turn? types start ⟨found, current :: rest⟩
        = some (current,
            ⟨found ++ newNames start found (directBases types current),
              (newNames start found (directBases types current)).reverse ++ rest⟩) := by
  unfold turn?
  rw [← foldl_note]

theorem turns_searchBases (found pending : List String)
    : ∃ expanded more,
        Turns types start ⟨found, pending⟩ expanded ⟨searchBases types start found pending, []⟩
          ∧ searchBases types start found pending = found ++ more
          ∧ expanded.Perm (pending ++ more) := by
  -- A turn takes one name, and what it notes is new and pending, so it is to be taken once as well.
  induction found, pending using searchBases.induct types start with
  | case1 found =>
    unfold searchBases
    exact ⟨[], [], .none _, (List.append_nil _).symm, .refl _⟩
  | case2 found current rest new ih =>
    obtain ⟨expanded, more, hturns, hfound, hperm⟩ := ih
    unfold searchBases
    refine ⟨current :: expanded, new ++ more, .turn (turn?_cons ..) hturns, ?_, ?_⟩
    . rw [hfound, List.append_assoc]
    . apply List.Perm.cons
      calc
        expanded.Perm (new.reverse ++ rest ++ more) := hperm
        List.Perm _ (rest ++ new.reverse ++ more) := List.perm_append_comm.append_right more
        List.Perm _ (rest ++ (new.reverse ++ more)) := by rw [List.append_assoc]
        List.Perm _ (rest ++ (new ++ more)) :=
          ((List.reverse_perm new).append_right more).append_left rest

theorem Turns.exists_rest {s u last : Search} {expanded : List String}
    (h : Turns types start s names u) (hwhole : Turns types start s expanded last)
    (hend : last.pending = [])
    : ∃ rest, expanded = names ++ rest ∧ Turns types start u rest last := by
  induction h generalizing expanded with
  | none s => exact ⟨expanded, rfl, hwhole⟩
  | turn hturn _ ih =>
    cases hwhole with
    | none =>
      unfold turn? at hturn
      rw [hend] at hturn
      cases hturn
    | turn hturn' hwhole =>
      cases hturn.symm.trans hturn'
      have ⟨rest, hexpanded, hrest⟩ := ih hwhole
      exact ⟨rest, congrArg _ hexpanded, hrest⟩

end Search

theorem nodup_searchBases (hfound : found.Nodup)
    : (searchBases types start found pending).Nodup := by
  induction found, pending using searchBases.induct types start with
  | case1 found =>
    unfold searchBases
    exact hfound
  | case2 found current rest new ih =>
    unfold searchBases
    apply ih
    rw [List.nodup_append]
    refine ⟨hfound, nodup_newNames start found _, ?_⟩
    intro base hbase other hother
    rintro rfl
    exact (mem_newNames.1 hother).2.2 hbase

theorem nodup_transitiveBases (types : List UserDefinedType) (name : String)
    : (transitiveBases types name).Nodup := by
  apply nodup_searchBases
  apply List.nodup_nil

theorem reaches_iff_transGen (hnames : (types.map (·.name)).Nodup)
    : Reaches types name base ↔ Relation.TransGen (NamesBase types) name base := by
  constructor
  . intro h
    induction h with
    | direct hbase => exact .single ((mem_directBases_iff hnames).1 hbase)
    | further _ hbase ih => exact ih.tail ((mem_directBases_iff hnames).1 hbase)
  . intro h
    induction h with
    | single hbase => exact .direct ((mem_directBases_iff hnames).2 hbase)
    | tail _ hbase ih => exact ih.further ((mem_directBases_iff hnames).2 hbase)

theorem Hierarchy.mem_derivedOf_iff {derived : String} (hnames : (types.map (·.name)).Nodup)
    : derived ∈ (ofTypes types).derivedOf base
        ↔ derived ∈ types.map (·.name) ∧ base ∈ (ofTypes types).basesOf derived := by
  rw [derivedOf_ofTypes hnames]
  simp only [List.mem_map, mem_derivedFrom]
  constructor
  . rintro ⟨t, ⟨ht, hbase⟩, rfl⟩
    rw [basesOf_ofTypes]
    exact ⟨⟨t, ht, rfl⟩, mem_transitiveBases.2 hbase⟩
  . rintro ⟨⟨t, ht, rfl⟩, hbase⟩
    rw [basesOf_ofTypes] at hbase
    exact ⟨t, ⟨ht, mem_transitiveBases.1 hbase⟩, rfl⟩

theorem search_takes_each_name_once (hnames : (types.map (·.name)).Nodup) (name : String)
    : (∀ (names : List String) (s : Search), Search.Turns types name ⟨[], [name]⟩ names s →
        ∃ rest, Search.Turns types name s rest ⟨transitiveBases types name, []⟩
          ∧ (names ++ rest).Perm (name :: transitiveBases types name)
          ∧ (names ++ rest).Nodup)
      ∧ (transitiveBases types name).Nodup
      ∧ (∀ base, base ∈ transitiveBases types name
        ↔ base ≠ name ∧ Relation.TransGen (NamesBase types) name base)
      ∧ ∃ h, (Hierarchy.load types).result = .ok h
        ∧ (∀ other, h.basesOf other = transitiveBases types other)
        ∧ ∀ derived base,
          derived ∈ h.derivedOf base ↔ derived ∈ types.map (·.name) ∧ base ∈ h.basesOf derived := by
  have hmem : ∀ base, base ∈ transitiveBases types name
      ↔ base ≠ name ∧ Relation.TransGen (NamesBase types) name base := by
    intro base
    rw [mem_transitiveBases, IsBaseOf, reaches_iff_transGen hnames]
  have hnodup : (name :: transitiveBases types name).Nodup := by
    rw [List.nodup_cons]
    refine ⟨?_, nodup_transitiveBases types name⟩
    intro hself
    exact ((hmem name).1 hself).1 rfl
  refine ⟨?_, hnodup.of_cons, hmem, _, Hierarchy.result_load types, ?_, ?_⟩
  . intro names s hturns
    have ⟨expanded, more, hwhole, hfound, hperm⟩ :=
      @Search.turns_searchBases types name [] [name]
    -- Turns leave no choice, so the turns so far begin those that go to the end.
    have ⟨rest, hexpanded, hrest⟩ := hturns.exists_rest hwhole rfl
    rw [List.nil_append] at hfound
    rw [hexpanded, ← hfound] at hperm
    exact ⟨rest, hrest, hperm, hperm.nodup_iff.2 hnodup⟩
  . intro other
    apply Hierarchy.basesOf_ofTypes
  . intro derived base
    exact Hierarchy.mem_derivedOf_iff hnames

def knottedTypes : List UserDefinedType := [
  { name := "Knot", baseTypes := ["Knot", "Loop", "Loop", "IUnknown"] },
  { name := "Loop", baseTypes := ["Pool"] },
  { name := "Pool", baseTypes := ["Loop", "Knot"] }]

theorem search_takes_each_name_once_knottedTypes
    : transitiveBases knottedTypes "Knot" = ["Loop", "IUnknown", "Pool"]
      ∧ (∃ rest, Search.Turns knottedTypes "Knot" ⟨["Loop", "IUnknown"], ["IUnknown", "Loop"]⟩ rest
          ⟨transitiveBases knottedTypes "Knot", []⟩
        ∧ ("Knot" :: rest).Perm ("Knot" :: transitiveBases knottedTypes "Knot"))
      ∧ (∀ base, base ∈ transitiveBases knottedTypes "Knot"
        ↔ base ≠ "Knot" ∧ Relation.TransGen (NamesBase knottedTypes) "Knot" base) := by
  have ⟨hturns, _, hmem, _⟩ :=
    @search_takes_each_name_once knottedTypes (by decide) "Knot"
  have ⟨rest, hrest, hperm, _⟩ := hturns ["Knot"] _ (.turn rfl (.none _))
  refine ⟨by decide +kernel, ⟨rest, hrest, hperm⟩, hmem⟩

end Footprint
