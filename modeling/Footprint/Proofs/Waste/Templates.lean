import Footprint.Proofs.Name.Signature
import Footprint.Proofs.Waste.Foldability

namespace Footprint
namespace Foldability

def template (item : Foldability) : String × List TemplatedFunction :=
  (item.templateName, item.symbols)

variable {s : Snapshot} {similarity : Similarity} {found next : Findings}
  {group : String × List TemplatedFunction}

theorem genericFunction_of_mem_templates (h : group ∈ templates s) {f : TemplatedFunction}
    (hf : f ∈ group.2)
    : Name.genericFunction f = group.1 := by
  rw [functions_of_mem_templates h] at hf
  exact of_decide_eq_true (List.mem_filter.1 hf).2

theorem map_template_take (h : found.take similarity group = .ok next)
    : next.items.map template
        = found.items.map template ++ [group].filter (·.2.length ≠ 1) := by
  rw [take_eq_ok] at h
  cases h with
  | inl hsingle => simp [hsingle.1, hsingle.2]
  | inr hseveral =>
    have ⟨hlength, size, _, hnext⟩ := hseveral
    simp [hlength, hnext, template, make]

theorem map_template_foldlM {groups : List (String × List TemplatedFunction)}
    (h : groups.foldlM (Findings.take similarity) found = .ok next)
    : next.items.map template
        = found.items.map template ++ groups.filter (·.2.length ≠ 1) := by
  induction groups generalizing found with
  | nil =>
    cases h
    exact (List.append_nil _).symm
  | cons g groups ih =>
    rw [List.foldlM_cons] at h
    obtain ⟨taken, htaken, h⟩ := Except.bind_eq_ok.1 h
    rw [ih h, map_template_take htaken, List.append_assoc, ← List.filter_append,
      List.singleton_append]

theorem map_template_find (h : (find similarity s).result = .ok found)
    : found.items.map template = (templates s).filter (·.2.length ≠ 1) := by
  rw [result_find] at h
  exact map_template_foldlM h

theorem template_mem_templates (h : (find similarity s).result = .ok found) {item : Foldability}
    (hitem : item ∈ found.items)
    : template item ∈ templates s := by
  have hmem := List.mem_map_of_mem (f := template) hitem
  rw [map_template_find h, List.mem_filter] at hmem
  exact hmem.1

theorem genericFunction_of_mem_find (h : (find similarity s).result = .ok found)
    {item : Foldability} (hitem : item ∈ found.items) {f : TemplatedFunction}
    (hf : f ∈ item.symbols)
    : Name.genericFunction f = item.templateName := by
  exact genericFunction_of_mem_templates (template_mem_templates h hitem) hf

theorem skeletons_agree_while_closed (s : Snapshot) (similarity : Similarity)
    : (∀ name other : String, Name.genericType name = Name.genericType other
        → Name.skeleton (Name.closedPart name.toList)
          = Name.skeleton (Name.closedPart other.toList))
      ∧ (∀ found, (find similarity s).result = .ok found → ∀ item ∈ found.items,
        ∀ f ∈ item.symbols, ∀ g ∈ item.symbols,
        Name.HasClosedArguments f → Name.HasClosedArguments g
        → Name.skeleton (Name.closedPart f.name.toList)
          = Name.skeleton (Name.closedPart g.name.toList))
      ∧ ∀ name, Name.generic (Name.closedPart name) = Name.generic name
        ∧ (Name.closedPart name ≠ name
          → Name.skeleton (Name.closedPart name) ≠ Name.skeleton name) := by
  have hskeleton {name other : List Char} (h : Name.generic name = Name.generic other)
      : Name.skeleton (Name.closedPart name) = Name.skeleton (Name.closedPart other) := by
    rw [← Name.skeleton_generic, h, Name.skeleton_generic]
  refine ⟨?_, ?_, ?_⟩
  . intro name other h
    exact hskeleton (String.ofList_inj.1 h)
  . intro found hfound item hitem f hf g hg hclosed hclosed'
    apply hskeleton
    apply Name.generic_eq_of_genericFunction_eq hclosed hclosed'
    rw [genericFunction_of_mem_find hfound hitem hf, genericFunction_of_mem_find hfound hitem hg]
  . intro name
    exact ⟨Name.generic_closedPart name, Name.skeleton_closedPart_ne⟩

def searchOf (name type : String) : TemplatedFunction where
  name := name
  argumentTypes := [type]
  rva := 0

def snapshotOf (f g : TemplatedFunction) : Snapshot where
  templatedFunctions := [f, g]

theorem templates_snapshotOf {f g : TemplatedFunction}
    (h : Name.genericFunction f = Name.genericFunction g)
    : templates (snapshotOf f g) = [(Name.genericFunction f, [f, g])] := by
  simp [templates_eq, snapshotOf, classes, firstSeen, h]

theorem exists_item_snapshotOf {f g : TemplatedFunction} (similarity : Similarity)
    (h : Name.genericFunction f = Name.genericFunction g)
    (hsize : ∃ size, codeSize [f, g] (uniqueAmong [f, g]) = .ok size)
    : ∃ found, (find similarity (snapshotOf f g)).result = .ok found
        ∧ ∃ item ∈ found.items, item.symbols = [f, g] := by
  have htemplates := templates_snapshotOf h
  obtain ⟨found, hfound⟩ := exists_find similarity (s := snapshotOf f g) <| by
    rw [htemplates]
    simpa using hsize
  have hmem : (Name.genericFunction f, [f, g]) ∈ found.items.map template := by
    rw [map_template_find hfound, htemplates]
    exact List.mem_singleton_self _
  obtain ⟨item, hitem, htemplate⟩ := List.mem_map.1 hmem
  exact ⟨found, hfound, item, hitem, congrArg Prod.snd htemplate⟩

def findInts : TemplatedFunction :=
  searchOf "List<int>::find" "bool (*)(int)"

def findPairs : TemplatedFunction :=
  searchOf "List<Pair<int,bool>>::find" "bool (*)(Pair<int,bool>)"

theorem skeletons_agree_while_closed_find
    : (Name.genericType "::List<int>" = Name.genericType "List<Pair<int,bool>>"
        ∧ Name.skeleton (Name.closedPart "::List<int>".toList)
          = Name.skeleton (Name.closedPart "List<Pair<int,bool>>".toList))
      ∧ (∃ found, (find byteSimilarity (snapshotOf findInts findPairs)).result = .ok found
        ∧ ∃ item ∈ found.items, findInts ∈ item.symbols ∧ findPairs ∈ item.symbols
          ∧ Name.HasClosedArguments findInts ∧ Name.HasClosedArguments findPairs
          ∧ Name.skeleton (Name.closedPart findInts.name.toList)
            = Name.skeleton (Name.closedPart findPairs.name.toList))
      ∧ Name.closedPart "operator<".toList ≠ "operator<".toList
      ∧ Name.skeleton (Name.closedPart "operator<".toList) ≠ Name.skeleton "operator<".toList := by
  have ⟨hnames, hitems, hclosed⟩ :=
    skeletons_agree_while_closed (snapshotOf findInts findPairs) byteSimilarity
  obtain ⟨found, hfound, item, hitem, hsymbols⟩ :=
    exists_item_snapshotOf (f := findInts) (g := findPairs) byteSimilarity (by decide) ⟨_, rfl⟩
  have hints : findInts ∈ item.symbols := by simp [hsymbols]
  have hpairs : findPairs ∈ item.symbols := by simp [hsymbols]
  have hargs : Name.HasClosedArguments findInts := ⟨by decide, by decide⟩
  have hargs' : Name.HasClosedArguments findPairs := ⟨by decide, by decide⟩
  have hsame := hitems found hfound item hitem findInts hints findPairs hpairs hargs hargs'
  refine ⟨⟨by decide, hnames _ _ (by decide)⟩, ?_, by decide, (hclosed _).2 (by decide)⟩
  exact ⟨found, hfound, item, hitem, hints, hpairs, hargs, hargs', hsame⟩

def less : TemplatedFunction :=
  searchOf "Vec<int>::operator<" "const Vec<int>&"

def shiftLeft : TemplatedFunction :=
  searchOf "Vec<int>::operator<<" "const Vec<int>&"

theorem skeletons_differ_operators
    : Name.genericType less.name = Name.genericType shiftLeft.name
      ∧ (∃ found, (find byteSimilarity (snapshotOf less shiftLeft)).result = .ok found
        ∧ ∃ item ∈ found.items, item.symbols = [less, shiftLeft])
      ∧ Name.skeleton less.name.toList ≠ Name.skeleton shiftLeft.name.toList := by
  -- The `<` of an operator opens a list that is never closed.
  refine ⟨by decide, ?_, by decide⟩
  exact exists_item_snapshotOf byteSimilarity (by decide) ⟨_, rfl⟩

end Foldability
end Footprint
