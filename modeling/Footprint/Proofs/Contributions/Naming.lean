import Footprint.Proofs.Contributions
import Footprint.Proofs.Except

namespace Footprint

namespace Place

def sectionName? : Place → Option String
  | binarySection name => some name
  | coffGroup _ => none

def coffGroupName? : Place → Option String
  | binarySection _ => none
  | coffGroup name => some name

end Place

namespace Contributions

structure Names (c : Contributions) (places : List Place) : Prop where
  sections : c.sections.keys = firstSeen (places.filterMap Place.sectionName?)
  coffGroups : c.coffGroups.keys = firstSeen (places.filterMap Place.coffGroupName?)

variable {c d : Contributions} {p : Place} {e : Extent} {places : List Place} {ps : List Posting}

theorem names_empty : empty.Names [] where
  sections := rfl
  coffGroups := rfl

theorem Names.put (h : c.Names places) (p : Place) (e : Extent)
    : (c.put p e).Names (places ++ [p]) := by
  cases p with
  | binarySection name =>
    constructor
    . rw [List.filterMap_append]
      exact Roster.keys_insert_of_firstSeen h.sections name e
    . rw [List.filterMap_append]
      exact h.coffGroups.trans (congrArg firstSeen (List.append_nil _).symm)
  | coffGroup name =>
    constructor
    . rw [List.filterMap_append]
      exact h.sections.trans (congrArg firstSeen (List.append_nil _).symm)
    . rw [List.filterMap_append]
      exact Roster.keys_insert_of_firstSeen h.coffGroups name e

theorem Names.add (h : c.Names places) (hadd : c.add p e = .ok d) : d.Names (places ++ [p]) := by
  rw [← (add_eq_ok.1 hadd).2]
  exact h.put p _

theorem Names.post (h : c.Names places) (hpost : c.post ps = .ok d)
    : d.Names (places ++ ps.map Prod.fst) := by
  induction ps generalizing c places with
  | nil =>
    cases hpost
    rw [List.map_nil, List.append_nil]
    exact h
  | cons p ps ih =>
    rw [post_cons] at hpost
    have ⟨next, hadd, hrest⟩ := Except.bind_eq_ok.1 hpost
    rw [List.map_cons, List.append_cons]
    exact ih (h.add hadd) hrest

theorem names_ofRecords {records : List ContributionRecord} (h : ofRecords records = .ok c)
    : c.Names ((records.flatMap (·.postings)).map Prod.fst) := by
  rw [ofRecords_eq_post] at h
  exact names_empty.post h

theorem names_mergeAll {cs : List Contributions} (h : mergeAll cs = .ok c)
    : c.Names ((cs.flatMap postings).map Prod.fst) := by
  rw [mergeAll_eq_post] at h
  exact names_empty.post h

theorem entries_sections (h : c.Names places)
    : c.sections.entries = (firstSeen (places.filterMap Place.sectionName?)).map fun name =>
        (name, c.extentAt (.binarySection name)) := by
  rw [← h.sections]
  apply Roster.entries_eq_map

theorem entries_coffGroups (h : c.Names places)
    : c.coffGroups.entries = (firstSeen (places.filterMap Place.coffGroupName?)).map fun name =>
        (name, c.extentAt (.coffGroup name)) := by
  rw [← h.coffGroups]
  apply Roster.entries_eq_map

theorem eq_of_keys (hsections : c.sections.keys = d.sections.keys)
    (hgroups : c.coffGroups.keys = d.coffGroups.keys) (h : ∀ p, c.extentAt p = d.extentAt p)
    : c = d := by
  have hs : c.sections = d.sections :=
    Roster.eq_of_keys_of_getD {} hsections fun name => h (.binarySection name)
  have hg : c.coffGroups = d.coffGroups :=
    Roster.eq_of_keys_of_getD {} hgroups fun name => h (.coffGroup name)
  cases c
  cases d
  cases hs
  cases hg
  rfl

theorem filterMap_sectionName?_postings (c : Contributions)
    : (c.postings.map Prod.fst).filterMap Place.sectionName? = c.sections.keys := by
  unfold postings Roster.keys
  simp [List.filterMap_map, Function.comp_def, Place.sectionName?]

theorem filterMap_coffGroupName?_postings (c : Contributions)
    : (c.postings.map Prod.fst).filterMap Place.coffGroupName? = c.coffGroups.keys := by
  unfold postings Roster.keys
  simp [List.filterMap_map, Function.comp_def, Place.coffGroupName?]

end Contributions
end Footprint
