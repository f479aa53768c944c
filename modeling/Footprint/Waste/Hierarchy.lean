import Footprint.Pass

/-!
This module contains the inheritance relations between the user-defined types of a snapshot: the
bases from which a type derives, directly or not, and the types that derive from a base.
-/

namespace Footprint

def directBases (types : List UserDefinedType) (name : String) : List String :=
  (types.find? (·.name = name)).elim [] (·.baseTypes)

def allBases (types : List UserDefinedType) : List String :=
  types.flatMap (·.baseTypes)

theorem mem_allBases {types : List UserDefinedType} {name base : String}
    (h : base ∈ directBases types name) : base ∈ allBases types := by
  unfold directBases at h
  cases hf : types.find? (·.name = name) with
  | none => simp [hf] at h
  | some t =>
    simp [hf] at h
    exact List.mem_flatMap.2 ⟨t, List.mem_of_find?_eq_some hf, h⟩

def newNames (start : String) (found names : List String) : List String :=
  firstSeen (names.filter fun name => name ≠ start ∧ name ∉ found)

theorem mem_newNames {start name : String} {found names : List String}
    : name ∈ newNames start found names ↔ name ∈ names ∧ name ≠ start ∧ name ∉ found := by
  simp [newNames, mem_firstSeen]

theorem nodup_newNames (start : String) (found names : List String)
    : (newNames start found names).Nodup :=
  nodup_firstSeen _

def missing (types : List UserDefinedType) (found : List String) : Nat :=
  ((allBases types).filter (· ∉ found)).length

theorem length_add_missing_append_le {types : List UserDefinedType} {found new : List String}
    (hnodup : new.Nodup) (hnew : ∀ base ∈ new, base ∈ allBases types ∧ base ∉ found)
    : new.length + missing types (found ++ new) ≤ missing types found := by
  unfold missing
  have hleft : (allBases types).filter (· ∉ found ++ new)
      = ((allBases types).filter (· ∉ found)).filter (· ∉ new) := by
    simp [List.filter_filter, Bool.and_comm]
  have hle : new.length ≤ (((allBases types).filter (· ∉ found)).filter (· ∈ new)).length := by
    apply hnodup.length_le_of_subset
    intro base hbase
    simp [hbase, hnew base hbase]
  have hsplit := List.length_eq_countP_add_countP (· ∈ new)
    (l := (allBases types).filter (· ∉ found))
  simp only [List.countP_eq_length_filter, decide_eq_true_eq] at hsplit
  rw [hleft]
  omega

/--
Goes on with a search for the bases of a type. Of the pending names the first one is expanded next,
and the names that it leads to for the first time are expanded before the others.
-/
def searchBases (types : List UserDefinedType) (start : String) (found pending : List String)
    : List String :=
  match pending with
  | [] => found
  | current :: rest =>
    let new := newNames start found (directBases types current)
    searchBases types start (found ++ new) (new.reverse ++ rest)
termination_by missing types found + pending.length
decreasing_by
  have hnew : ∀ base ∈ newNames start found (directBases types current),
      base ∈ allBases types ∧ base ∉ found := by
    intro base h
    obtain ⟨hbase, _, hfound⟩ := mem_newNames.1 h
    exact ⟨mem_allBases hbase, hfound⟩
  have hle := length_add_missing_append_le (nodup_newNames start found _) hnew
  -- What becomes pending is no longer missing, so a turn takes away the name that it expands.
  simp only [List.length_append, List.length_reverse, List.length_cons]
  omega

/--
The bases of a type, direct or not, without the type itself. A base without a record is one of
them, but leads no further.
-/
def transitiveBases (types : List UserDefinedType) (name : String) : List String :=
  searchBases types name [] [name]

structure Hierarchy where
  types : List UserDefinedType
  bases : List (String × List String)
  derived : Roster String (List String)
  deriving DecidableEq, Repr

namespace Hierarchy

def addDerived (type : String) (derived : Roster String (List String)) (base : String)
    : Roster String (List String) :=
  let types := (derived.find? base).getD []
  derived.insert base (if type ∈ types then types else types ++ [type])

def load (types : List UserDefinedType) : Pass Hierarchy := do
  let bases ← Sweep.mapEach .baseTypes
    (fun (t : UserDefinedType) => .ok (t.name, transitiveBases types t.name)) types
  let derived ← Sweep.run .derivedTypes bases.length (fun sweep _ => sweep.advance 1)
    (fun derived (name, names) => .ok (names.foldl (addDerived name) derived))
    .empty Roster.size bases
  return { types, bases, derived }

def basesOf (h : Hierarchy) (name : String) : List String :=
  (h.bases.lookup name).getD []

def derivedOf (h : Hierarchy) (name : String) : List String :=
  (h.derived.find? name).getD []

def functionsOf (h : Hierarchy) (name : String) : List MemberFunction :=
  (h.types.find? (·.name = name)).elim [] (·.functions)

end Hierarchy

end Footprint
