import Footprint.Proofs.Comparison
import Footprint.Proofs.Conservation
import Footprint.Proofs.Contributions.Naming
import Footprint.Proofs.Snapshot.Places
import Mathlib.Data.List.Flatten

/-!
This module contains that libs have what their records come to. A lib is summed up from compilands,
which are summed up from records, but it comes to the same as if its records were gone through once.
So between two builds the libs gain what the compilands gain, whichever lib these are linked into.
-/

namespace Footprint

def Snapshot.recordsOfLib (s : Snapshot) (lib : String) : List ContributionRecord :=
  (s.compilands.filter (·.lib = lib)).flatMap (·.contributions)

theorem sublist_recordsOfLib (s : Snapshot) (lib : String)
    : (s.recordsOfLib lib).Sublist (s.recordsOf .lib) := by
  exact List.filter_sublist.flatMap _

namespace Contributions

variable {recordLists : List (List ContributionRecord)} {cs : List Contributions}
  {d : Contributions}

theorem firstSeen_places_of_forall₂ {name? : Place → Option String}
    (h : List.Forall₂ (fun records c => (c.postings.map Prod.fst).filterMap name?
      = firstSeen (((records.flatMap (·.postings)).map Prod.fst).filterMap name?))
      recordLists cs)
    : firstSeen (((cs.flatMap postings).map Prod.fst).filterMap name?)
        = firstSeen
          (((recordLists.flatten.flatMap (·.postings)).map Prod.fst).filterMap name?) := by
  have hflatten : ((recordLists.flatten.flatMap (·.postings)).map Prod.fst).filterMap name?
      = recordLists.flatMap fun records =>
        ((records.flatMap (·.postings)).map Prod.fst).filterMap name? := by
    rw [← List.flatMap_id, List.flatMap_assoc, List.map_flatMap, List.filterMap_flatMap]
    rfl
  rw [List.map_flatMap, List.filterMap_flatMap, firstSeen_flatMap_of_forall₂ h, hflatten]

theorem ofRecords_flatten
    (h : List.Forall₂ (fun records c => ofRecords records = .ok c) recordLists cs)
    (hmerge : mergeAll cs = .ok d)
    : ofRecords recordLists.flatten = .ok d := by
  have hextent (p : Place)
      : d.extentAt p = amountAt p (recordLists.flatten.flatMap (·.postings)) := by
    rw [← amountAt_postings]
    exact (amountIn_mergeAll _ hmerge).trans (sum_amountIn_of_forall₂ h)
  -- The sums that fit after merging are those of all records, so going through these cannot fail.
  have ⟨c, hc⟩ : ∃ c, ofRecords recordLists.flatten = .ok c := by
    apply exists_ofRecords
    intro p
    rw [← hextent]
    exact fits_mergeAll hmerge p
  have hnames := names_ofRecords hc
  have hmerged := names_mergeAll hmerge
  have heach := h.imp fun _ _ => names_ofRecords
  rw [hc]
  apply congrArg
  -- The order of either kind of place is left, which merging takes from the lists one by one.
  apply eq_of_keys
  . rw [hnames.sections, hmerged.sections]
    refine (firstSeen_places_of_forall₂ (heach.imp ?_)).symm
    intro records c hrecords
    exact (filterMap_sectionName?_postings c).trans hrecords.sections
  . rw [hnames.coffGroups, hmerged.coffGroups]
    refine (firstSeen_places_of_forall₂ (heach.imp ?_)).symm
    intro records c hrecords
    exact (filterMap_coffGroupName?_postings c).trans hrecords.coffGroups
  . intro p
    rw [extentAt_ofRecords p hc, hextent]

end Contributions

/--
Whether some libs are those that the compilands of a snapshot name, in first-seen order, and have
what the records of these compilands come to, the records being gone through once and in order.
-/
structure Snapshot.Aggregates (s : Snapshot) (libs : List Lib) : Prop where
  names : libs.map (·.name) = firstSeen (s.compilands.map (·.lib))
  eachLib : ∀ l ∈ libs, Contributions.ofRecords (s.recordsOfLib l.name) = .ok l.contributions

section Snapshots

variable {s : Snapshot} {compilands : List Compiland} {libs : List Lib}

theorem aggregates (hbuild : s.buildCompilands.result = .ok compilands)
    (hlibs : LibsOf libs compilands)
    : s.Aggregates libs := by
  have hall := forall₂_compilands hbuild
  constructor
  case names =>
    rw [hlibs.names]
    congr 1
    apply map_eq_map_of_forall₂
    exact hall.imp fun r c hc => hc.2.1
  case eachLib =>
    intro l hl
    have hmembers : List.Forall₂
        (fun r c => Contributions.ofRecords r.contributions = .ok c.contributions)
        (s.compilands.filter (·.lib = l.name)) (compilandsIn l.name compilands) := by
      apply (List.rel_filter _ hall).imp
      . exact fun r c hc => hc.2.2
      . intro r c hc
        simp [hc.2.1]
    unfold Snapshot.recordsOfLib
    rw [List.flatMap_def]
    apply Contributions.ofRecords_flatten _ (hlibs.gathers l hl).contributions
    rw [List.forall₂_map_left_iff, List.forall₂_map_right_iff]
    exact hmembers

theorem sizeIn_recordsOf_le_of_holds (h : s.check = .ok ()) (kind : ContainerKind) {p : Place}
    {bound : Nat} (hle : ∀ size, s.Holds size p → size ≤ bound)
    : sizeIn p (s.recordsOf kind) ≤ bound := by
  by_cases hholds : ∃ size, s.Holds size p
  . have ⟨size, hholds⟩ := hholds
    exact (sizeIn_recordsOf_le h kind hholds).trans (hle size hholds)
  . push Not at hholds
    rw [Snapshot.sizeIn_eq_zero h kind hholds]
    exact Nat.zero_le bound

end Snapshots

section Comparisons

variable {s t : Snapshot} {options : AnalysisOptions} {similarity : Similarity}
  {x y : Analysis} {c : Comparison}

theorem sums_sizeDiffAt (hs : s.check = .ok ()) (ht : t.check = .ok ())
    (hx : (s.analyze options similarity).result = .ok x)
    (hy : (t.analyze options similarity).result = .ok y) (hc : c.Pairs x y) {p : Place}
    (hbefore : sizeIn p (s.recordsOf .compiland) ≤ maxSigned)
    (hafter : sizeIn p (t.recordsOf .compiland) ≤ maxSigned)
    : (c.libs.map (·.contributions.sizeDiffAt p)).sum
          = (sizeIn p (t.recordsOf .compiland) : Int) - sizeIn p (s.recordsOf .compiland)
        ∧ (c.compilands.map (·.contributions.sizeDiffAt p)).sum
          = (sizeIn p (t.recordsOf .compiland) : Int) - sizeIn p (s.recordsOf .compiland) := by
  have hconservesBefore := (conserves_of_result_analyze hs hx).2
  have hconservesAfter := (conserves_of_result_analyze ht hy).2
  have hcompilandsBefore := hconservesBefore.compilandPlaces p
  have hcompilandsAfter := hconservesAfter.compilandPlaces p
  have hlibsBefore := (hconservesBefore.libPlaces p).trans hcompilandsBefore
  have hlibsAfter := (hconservesAfter.libPlaces p).trans hcompilandsAfter
  constructor
  . rw [← hlibsBefore, ← hlibsAfter]
    apply sum_sizeDiffAt hc.libs
    . exact hlibsBefore.trans_le hbefore
    . exact hlibsAfter.trans_le hafter
  . rw [← hcompilandsBefore, ← hcompilandsAfter]
    apply sum_sizeDiffAt hc.compilands
    . exact hcompilandsBefore.trans_le hbefore
    . exact hcompilandsAfter.trans_le hafter

theorem Snapshot.libs_aggregate_records (hs : s.check = .ok ()) (ht : t.check = .ok ())
    : (∃ compilands libs,
        s.buildCompilands.result = .ok compilands
        ∧ (buildLibs compilands).result = .ok libs
        ∧ s.Aggregates libs
        ∧ ∀ options similarity m a, ((s.analyze options similarity).run m).1 = .ok a
          → a.libs = libs)
      ∧ ((∀ sec ∈ s.sections, sec.size ≤ maxSigned) → (∀ sec ∈ t.sections, sec.size ≤ maxSigned)
        → ∀ options similarity m c, (compareSnapshots s t options similarity m).1 = .ok c
        → ∀ name,
          (c.libs.map (·.contributions.sizeDiffAt (.binarySection name))).sum
            = (c.compilands.map (·.contributions.sizeDiffAt (.binarySection name))).sum) := by
  constructor
  . have ⟨compilands, hcompilands⟩ := exists_buildCompilands hs
    have ⟨libs, hbuild, hlibs⟩ := exists_buildLibs hs hcompilands
    refine ⟨compilands, libs, hcompilands, hbuild, aggregates hcompilands hlibs, ?_⟩
    intro options similarity m a ha
    have ⟨hc, hl, _⟩ := containers_of_result_analyze (Pass.result_of_run_eq_ok ha)
    rw [hcompilands] at hc
    cases hc
    rw [hbuild] at hl
    cases hl
    rfl
  . intro hsectionsBefore hsectionsAfter options similarity m c h name
    have ⟨x, y, hx, hy, hc⟩ := exists_result_of_compareSnapshots h
    have hbefore : sizeIn (.binarySection name) (s.recordsOf .compiland) ≤ maxSigned := by
      apply sizeIn_recordsOf_le_of_holds hs
      rintro size ⟨sec, hsec, _, rfl⟩
      exact hsectionsBefore sec hsec
    have hafter : sizeIn (.binarySection name) (t.recordsOf .compiland) ≤ maxSigned := by
      apply sizeIn_recordsOf_le_of_holds ht
      rintro size ⟨sec, hsec, _, rfl⟩
      exact hsectionsAfter sec hsec
    have ⟨hlibs, hcompilands⟩ :=
      sums_sizeDiffAt hs ht hx hy (Comparison.pairs_of_result hc) hbefore hafter
    exact hlibs.trans hcompilands.symm

def linkedInto (lib : String) (size : Nat) : Snapshot where
  sections := [
    { name := ".text", size := 12, coffGroups := [{ name := ".text$a", size := 12 }] },
    { name := ".data", size := 5, coffGroups := [{ name := ".data", size := 5 }] }]
  compilands := [
    { name := "a.obj", lib := "x.lib", contributions := [
      { sectionName := ".text", coffGroup := ".text$a", size := 4 },
      { sectionName := ".data", coffGroup := ".data", size := 3 }] },
    { name := "b.obj", lib, contributions := [
      { sectionName := ".data", coffGroup := ".data", size := 2 },
      { sectionName := ".text", coffGroup := ".text$a", size }] }]

theorem Snapshot.libs_aggregate_records_linkedInto
    : ∃ libs c, (linkedInto "x.lib" 5).Aggregates libs
        ∧ libs.map (fun l => (l.name, l.contributions.sections.entries))
          = [("x.lib", [(".text", { size := 9 }), (".data", { size := 5 })])]
        ∧ (compareSnapshots (linkedInto "x.lib" 5) (linkedInto "y.lib" 8) {} byteSimilarity
          (.start none)).1 = .ok c
        ∧ c.libs.map (fun d => (d.name, d.contributions.sizeDiffAt (.binarySection ".text")))
          = [("x.lib", -5), ("y.lib", 8)]
        ∧ (c.compilands.map (·.contributions.sizeDiffAt (.binarySection ".text"))).sum = 3 := by
  have hs : (linkedInto "x.lib" 5).check = .ok () := rfl
  have ht : (linkedInto "y.lib" 8).check = .ok () := rfl
  obtain ⟨⟨compilands, libs, hcompilands, hlibs, haggregates, _⟩, hgain⟩ :=
    libs_aggregate_records hs ht
  obtain ⟨c, hc⟩ : ∃ c, (compareSnapshots (linkedInto "x.lib" 5) (linkedInto "y.lib" 8) {}
      byteSimilarity (.start none)).1 = .ok c := ⟨_, rfl⟩
  -- The second compiland moves to another lib and grows by three bytes.
  have hsum := hgain (by decide) (by decide) _ _ _ c hc ".text"
  refine ⟨libs, c, haggregates, ?_, hc, ?_, ?_⟩
  . cases hcompilands
    cases hlibs
    rfl
  . cases hc
    rfl
  . rw [← hsum]
    cases hc
    rfl

end Comparisons

end Footprint
