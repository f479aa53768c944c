import Footprint.Proofs.Comparison
import Footprint.Proofs.Snapshot.Check

namespace Footprint
namespace Snapshot

variable {s : Snapshot} {p : Place} {sectionName otherSection group : String} {size other : Nat}

def HoldsIn (s : Snapshot) (sectionName group : String) (size : Nat) : Prop :=
  ∃ sec ∈ s.sections, sec.name = sectionName ∧ ∃ g ∈ sec.coffGroups, g.name = group ∧ g.size = size

def FullyAttributed (s : Snapshot) : Prop :=
  ∀ size p, s.Holds size p → sizeIn p (s.recordsOf .compiland) = size

instance (s : Snapshot) : Decidable s.FullyAttributed :=
  decidable_of_iff
    (∀ e ∈ placesOf s.sections, sizeIn e.1 (s.recordsOf .compiland) = e.2)
    ⟨fun h size p hholds => h (p, size) (mem_placesOf.2 hholds),
      fun h e he => h e.2 e.1 (mem_placesOf.1 he)⟩

theorem holds_coffGroup_iff
    : s.Holds size (.coffGroup group) ↔ ∃ sectionName, s.HoldsIn sectionName group size := by
  unfold Holds HoldsIn
  constructor
  . intro ⟨sec, hsec, hgroup⟩
    exact ⟨sec.name, sec, hsec, rfl, hgroup⟩
  . intro ⟨_, sec, hsec, _, hgroup⟩
    exact ⟨sec, hsec, hgroup⟩

def coffGroups (s : Snapshot) : List (String × CoffGroupRecord) :=
  s.sections.flatMap fun sec => sec.coffGroups.map fun g => (sec.name, g)

theorem mem_coffGroups {e : String × CoffGroupRecord}
    : e ∈ s.coffGroups ↔ ∃ sec ∈ s.sections, sec.name = e.1 ∧ e.2 ∈ sec.coffGroups := by
  obtain ⟨name, g⟩ := e
  unfold coffGroups
  simp only [List.mem_flatMap, List.mem_map, Prod.mk.injEq]
  constructor
  . rintro ⟨sec, hsec, g, hg, rfl, rfl⟩
    exact ⟨sec, hsec, rfl, hg⟩
  . rintro ⟨sec, hsec, rfl, hg⟩
    exact ⟨sec, hsec, g, hg, rfl, rfl⟩

theorem nodup_coffGroups (h : s.check = .ok ()) : (s.coffGroups.map (·.2.name)).Nodup := by
  have hnames := (check_eq_ok.1 h).2.1 .coffGroup
  unfold coffGroups
  rw [List.map_flatMap]
  simp only [List.map_map]
  exact hnames

theorem HoldsIn.unique (h : s.check = .ok ()) (hin : s.HoldsIn sectionName group size)
    (hother : s.HoldsIn otherSection group other)
    : sectionName = otherSection ∧ size = other := by
  obtain ⟨sec, hsec, hsecName, g, hg, hname, rfl⟩ := hin
  obtain ⟨sec', hsec', hsecName', g', hg', hname', rfl⟩ := hother
  have hmem : (sectionName, g) ∈ s.coffGroups := mem_coffGroups.2 ⟨sec, hsec, hsecName, hg⟩
  have hmem' : (otherSection, g') ∈ s.coffGroups := mem_coffGroups.2 ⟨sec', hsec', hsecName', hg'⟩
  have hsame := List.inj_on_of_nodup_map (nodup_coffGroups h) hmem hmem' (hname.trans hname'.symm)
  cases hsame
  exact ⟨rfl, rfl⟩

theorem holds_of_liesIn {r : ContributionRecord} (h : s.Places r) (hlies : r.liesIn p)
    : ∃ size, s.Holds size p := by
  obtain ⟨sec, hsec, hname, g, hg, hgroup⟩ := h
  cases p with
  | binarySection name =>
    exact ⟨_, sec, hsec, hname.trans (of_decide_eq_true hlies), rfl⟩
  | coffGroup name =>
    exact ⟨_, sec, hsec, g, hg, hgroup.trans (of_decide_eq_true hlies), rfl⟩

theorem sizeIn_eq_zero (h : s.check = .ok ()) (kind : ContainerKind)
    (hnone : ∀ size, ¬s.Holds size p)
    : sizeIn p (s.recordsOf kind) = 0 := by
  have hplaced := records_of_contributors (check_eq_ok.1 h).2.2.1 kind
  have hfilter : (s.recordsOf kind).filter (·.liesIn p) = [] := by
    rw [List.filter_eq_nil_iff]
    intro r hr hlies
    have ⟨size, hholds⟩ := holds_of_liesIn (hplaced r hr) hlies
    exact hnone size hholds
  unfold sizeIn
  rw [hfilter]
  rfl

section Lookups

theorem findByName?_ofRecord (s : Snapshot) (name : String)
    : findByName? (s.sections.map BinarySection.ofRecord) name
        = (s.sections.find? (·.name = name)).map BinarySection.ofRecord := by
  unfold findByName?
  rw [List.find?_map]
  rfl

theorem holds_binarySection_iff (h : s.check = .ok ())
    : s.Holds size (.binarySection sectionName)
        ↔ (findByName? (s.sections.map BinarySection.ofRecord) sectionName).map Sized.size
          = some size := by
  have hnames : (s.sections.map (·.name)).Nodup := (check_eq_ok.1 h).2.1 .binarySection
  rw [findByName?_ofRecord, Option.map_map, Option.map_eq_some_iff]
  simp only [find?_key_eq_some_iff hnames, and_assoc]
  exact Iff.rfl

theorem coffGroupIn?_ofRecord (sec : Option SectionRecord) (group : String)
    : (coffGroupIn? (sec.map BinarySection.ofRecord) group).map Sized.size
        = sec.bind fun sec => (sec.coffGroups.find? (·.name = group)).map (·.size) := by
  cases sec with
  | none => rfl
  | some sec =>
    show ((sec.coffGroups.map _).find? _).map _ = _
    rw [List.find?_map, Option.map_map]
    rfl

theorem holdsIn_iff (h : s.check = .ok ())
    : s.HoldsIn sectionName group size
        ↔ (coffGroupIn? (findByName? (s.sections.map BinarySection.ofRecord) sectionName)
          group).map Sized.size = some size := by
  have hsections : (s.sections.map (·.name)).Nodup := (check_eq_ok.1 h).2.1 .binarySection
  have hgroups := (List.nodup_flatMap.1 ((check_eq_ok.1 h).2.1 .coffGroup)).1
  rw [findByName?_ofRecord, coffGroupIn?_ofRecord, Option.bind_eq_some_iff]
  simp only [find?_key_eq_some_iff hsections, Option.map_eq_some_iff, and_assoc]
  unfold HoldsIn
  apply exists_congr
  intro sec
  apply and_congr_right
  intro hsec
  simp only [find?_key_eq_some_iff (hgroups sec hsec), and_assoc]

end Lookups

end Snapshot
end Footprint
