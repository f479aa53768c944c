import Footprint.Analysis.Compare
import Footprint.Proofs.Pairing
import Footprint.Proofs.Pass

namespace Footprint

variable {α : Type}

structure Diff.Compares [Sized α] (d : Diff α) (before after : Option α) : Prop where
  showsBefore : d.before? = before
  showsAfter : d.after? = after
  sizeDiff : d.sizeDiff = Quantity.delta (before.elim 0 Sized.size) (after.elim 0 Sized.size)
  virtualSizeDiff : d.virtualSizeDiff
    = Quantity.delta (before.elim 0 Sized.virtualSize) (after.elim 0 Sized.virtualSize)

/-- Whether a lookup finds a diff exactly if there is a side, and then the diff of the sides. -/
structure Compared [Sized α] (found : Option (Diff α)) (before after : Option α) : Prop where
  isSome : found.isSome ↔ before.isSome ∨ after.isSome
  compares : ∀ d, found = some d → d.Compares before after

def extentIn [Container α] (c : Option α) (p : Place) : Extent :=
  c.elim {} fun c => (Container.contributions c).extentAt p

def coffGroupIn? (s : Option BinarySection) (group : String) : Option CoffGroup :=
  findByName? (s.elim [] (·.coffGroups)) group

structure ContainersCompared [Container α] (before after : List α)
    (diffs : List (ContainerDiff α)) : Prop where
  compared : ∀ name, Compared ((findDiff? diffs name).map (·.diff))
    (findByName? before name) (findByName? after name)
  places : ∀ name d p, findDiff? diffs name = some d
    → d.contributions.sizeDiffAt p = Quantity.delta
        (extentIn (findByName? before name) p).size (extentIn (findByName? after name) p).size
      ∧ d.contributions.virtualSizeDiffAt p = Quantity.delta
        (extentIn (findByName? before name) p).virtualSize
        (extentIn (findByName? after name) p).virtualSize

structure Comparison.IsPointwise (c : Comparison) (before after : Analysis) : Prop where
  sections : ∀ name, Compared ((c.section? name).map (·.diff))
    (findByName? before.sections name) (findByName? after.sections name)
  coffGroups : ∀ name d, c.section? name = some d → ∀ group, Compared (d.coffGroups.find? group)
    (coffGroupIn? (findByName? before.sections name) group)
    (coffGroupIn? (findByName? after.sections name) group)
  libs : ContainersCompared before.libs after.libs c.libs
  compilands : ContainersCompared before.compilands after.compilands c.compilands
  sourceFiles : ContainersCompared before.sourceFiles after.sourceFiles c.sourceFiles

theorem compared_ofSides? [Sized α] (before after : Option α)
    : Compared (Diff.ofSides? before after) before after where
  isSome := Diff.isSome_ofSides?
  compares d h := by
    obtain ⟨rfl, rfl⟩ := Diff.ofSides?_eq_some.1 h
    exact ⟨rfl, rfl, rfl, rfl⟩

theorem pairable_eq_ok {x : Except PairingError α} {a : α} : pairable x = .ok a ↔ x = .ok a := by
  cases x <;> simp [pairable]

section Entities

variable [Entity α] {before after : List α} {pairs : List (Diff α)}

theorem find?_of_pairByName (h : pairByName before after = .ok pairs) (name : String)
    : (pairs.find? fun d => d.name = name)
        = Diff.ofSides? (findByName? before name) (findByName? after name) := by
  exact find?_of_pairByKey h name

end Entities

section Containers

variable [Container α] {before after : List α} {diffs : List (ContainerDiff α)} {task : Task}

theorem result_diffContainers
    : (diffContainers task before after).result = .ok diffs
        ↔ ∃ pairs, pairByName before after = .ok pairs
          ∧ diffs = pairs.map ContainerDiff.ofDiff := by
  have hmap (pairs : List (Diff α))
      : pairs.mapM (m := Except AnalysisError) (fun d => .ok (ContainerDiff.ofDiff d))
          = .ok (pairs.map ContainerDiff.ofDiff) := List.mapM_pure
  unfold diffContainers
  rw [Pass.result_bind, Pass.result_monadLift]
  simp only [Sweep.result_mapEach, hmap]
  cases hpairs : pairByName before after with
  | error e => simp [pairable, Except.bind]
  | ok pairs => simp [pairable, Except.bind, eq_comm]

theorem findDiff?_map_ofDiff (pairs : List (Diff α)) (name : String)
    : findDiff? (pairs.map ContainerDiff.ofDiff) name
        = (pairs.find? (·.name = name)).map ContainerDiff.ofDiff := by
  unfold findDiff?
  rw [List.find?_map]
  rfl

theorem find?_ofSides (before after : Option Contributions) (p : Place)
    : (ContributionDiffs.ofSides before after).find? p
        = Diff.ofSides? ((before.getD .empty).find? p) ((after.getD .empty).find? p) := by
  cases p with
  | binarySection name => apply Roster.find?_pair
  | coffGroup name => apply Roster.find?_pair

theorem find?_getD_empty (c : Option α) (p : Place)
    : (((c.map Container.contributions).getD .empty).find? p).getD {} = extentIn c p := by
  cases c with
  | some c => rfl
  | none => cases p <;> rfl

theorem deltaAt_ofSides (quantity : Extent → Nat) (hzero : quantity {} = 0)
    (before after : Option α) (p : Place)
    : ((ContributionDiffs.ofSides (before.map Container.contributions)
          (after.map Container.contributions)).find? p).elim 0 (Diff.deltaBy quantity)
        = Quantity.delta (quantity (extentIn before p)) (quantity (extentIn after p)) := by
  have helim (e : Option Extent) : e.elim 0 quantity = quantity (e.getD {}) := by
    cases e with
    | some e => rfl
    | none => exact hzero.symm
  rw [find?_ofSides, Diff.elim_deltaBy_ofSides?, helim, helim, find?_getD_empty,
    find?_getD_empty]

theorem sizeDiffAt_ofDiff (d : Diff α) (p : Place)
    : (ContainerDiff.ofDiff d).contributions.sizeDiffAt p
        = d.deltaBy fun c => ((Container.contributions c).extentAt p).size := by
  have hsize (c : Option α) : (extentIn c p).size
      = c.elim 0 fun c => ((Container.contributions c).extentAt p).size := by
    cases c <;> rfl
  have hdelta := deltaAt_ofSides Extent.size rfl d.before? d.after? p
  rw [hsize, hsize] at hdelta
  exact hdelta

theorem exists_sidesAddUp_of_diffContainers
    (h : (diffContainers task before after).result = .ok diffs) (p : Place)
    : ∃ pairs, SidesAddUp pairs before after
        ∧ diffs.map (·.contributions.sizeDiffAt p)
          = pairs.map (Diff.deltaBy fun c => ((Container.contributions c).extentAt p).size) := by
  obtain ⟨pairs, hpairs, rfl⟩ := result_diffContainers.1 h
  refine ⟨pairs, sidesAddUp_of_pairByKey hpairs, ?_⟩
  rw [List.map_map]
  apply List.map_congr_left
  intro d _
  exact sizeDiffAt_ofDiff d p

theorem sum_sizeDiffAt (h : (diffContainers task before after).result = .ok diffs) (p : Place)
    (hbefore : (before.map fun c => ((Container.contributions c).extentAt p).size).sum ≤ maxSigned)
    (hafter : (after.map fun c => ((Container.contributions c).extentAt p).size).sum ≤ maxSigned)
    : (diffs.map (·.contributions.sizeDiffAt p)).sum
        = ((after.map fun c => ((Container.contributions c).extentAt p).size).sum : Int)
          - (before.map fun c => ((Container.contributions c).extentAt p).size).sum := by
  have ⟨pairs, hsides, hdiffs⟩ := exists_sidesAddUp_of_diffContainers h p
  rw [hdiffs]
  exact hsides.sum_deltaBy _ hbefore hafter

theorem containersCompared (h : (diffContainers task before after).result = .ok diffs)
    : ContainersCompared before after diffs := by
  obtain ⟨pairs, hpairs, rfl⟩ := result_diffContainers.1 h
  have hfind (name : String) : findDiff? (pairs.map ContainerDiff.ofDiff) name
      = (Diff.ofSides? (findByName? before name) (findByName? after name)).map
        ContainerDiff.ofDiff := by
    rw [findDiff?_map_ofDiff, find?_of_pairByName hpairs]
  constructor
  case compared =>
    intro name
    have hdiff : (ContainerDiff.diff ∘ ContainerDiff.ofDiff : Diff α → Diff α) = id := rfl
    rw [hfind, Option.map_map, hdiff, Option.map_id]
    apply compared_ofSides?
  case places =>
    intro name d p hd
    rw [hfind] at hd
    obtain ⟨sides, hsides, rfl⟩ := Option.map_eq_some_iff.1 hd
    have ⟨hbefore, hafter⟩ := Diff.ofSides?_eq_some.1 hsides
    rw [← hbefore, ← hafter]
    constructor
    . exact deltaAt_ofSides Extent.size rfl sides.before? sides.after? p
    . exact deltaAt_ofSides Extent.virtualSize rfl sides.before? sides.after? p

end Containers

section Sections

variable {before after : List BinarySection} {diffs : List SectionDiff}

theorem diffSections_eq_ok
    : diffSections before after = .ok diffs
        ↔ ∃ pairs, pairByName before after = .ok pairs
          ∧ pairs.mapM SectionDiff.ofDiff = .ok diffs := by
  unfold diffSections
  rw [Except.bind_eq_ok]

theorem SectionDiff.ofDiff_eq_ok {pair : Diff BinarySection} {d : SectionDiff}
    (h : ofDiff pair = .ok d)
    : d.diff = pair ∧ ∀ group, d.coffGroups.find? group
        = Diff.ofSides? (coffGroupIn? pair.before? group) (coffGroupIn? pair.after? group) := by
  unfold ofDiff at h
  have ⟨groups, hgroups, hd⟩ := Except.bind_eq_ok.1 h
  cases hd
  refine ⟨rfl, ?_⟩
  intro group
  have hnodup : (groups.map Diff.name).Nodup := nodup_keys_of_pairByKey hgroups
  dsimp only
  rw [Roster.find?_ofList_map hnodup]
  exact find?_of_pairByName hgroups group

theorem map_diff_of_diffSections {pairs : List (Diff BinarySection)}
    (h : pairs.mapM SectionDiff.ofDiff = .ok diffs)
    : diffs.map (·.diff) = pairs := by
  rw [Except.mapM_eq_ok] at h
  induction h with
  | nil => rfl
  | cons hd _ ih => rw [List.map_cons, ih, (SectionDiff.ofDiff_eq_ok hd).1]

theorem find?_of_diffSections (h : diffSections before after = .ok diffs) (name : String)
    : (diffs.find? (·.name = name)).map (·.diff)
        = Diff.ofSides? (findByName? before name) (findByName? after name) := by
  have ⟨pairs, hpairs, hall⟩ := diffSections_eq_ok.1 h
  rw [← find?_of_pairByName hpairs, ← map_diff_of_diffSections hall, List.find?_map]
  rfl

theorem coffGroups_of_diffSections (h : diffSections before after = .ok diffs) {d : SectionDiff}
    (hd : d ∈ diffs) (group : String)
    : d.coffGroups.find? group
        = Diff.ofSides? (coffGroupIn? d.diff.before? group)
          (coffGroupIn? d.diff.after? group) := by
  have ⟨pairs, _, hall⟩ := diffSections_eq_ok.1 h
  have ⟨pair, _, hpair⟩ := Except.exists_of_mapM_eq_ok hall hd
  have ⟨hdiff, hgroups⟩ := SectionDiff.ofDiff_eq_ok hpair
  rw [hdiff]
  exact hgroups group

end Sections

namespace Comparison

variable {x y : Analysis} {c : Comparison}

structure Pairs (c : Comparison) (before after : Analysis) : Prop where
  sections : diffSections before.sections after.sections = .ok c.sections
  libs : (diffContainers .libDiffs before.libs after.libs).result = .ok c.libs
  compilands : (diffContainers .compilandDiffs before.compilands after.compilands).result
    = .ok c.compilands
  sourceFiles : (diffContainers .sourceFileDiffs before.sourceFiles after.sourceFiles).result
    = .ok c.sourceFiles
  symbols : pairByName before.symbols after.symbols = .ok c.symbols
  duplicateData : DuplicateData.diff before.duplicateData after.duplicateData
    = .ok c.duplicateData
  foldability : Foldability.diff before.foldability after.foldability = .ok c.foldability
  wastefulVirtuals : WastefulVirtual.diff before.wastefulVirtuals after.wastefulVirtuals
    = .ok c.wastefulVirtuals

theorem pairs_of_result (h : (ofAnalyses x y).result = .ok c) : c.Pairs x y := by
  unfold ofAnalyses at h
  simp only [Pass.result_bind_eq_ok, Pass.result_monadLift, pairable_eq_ok] at h
  obtain ⟨_, _, sections, hsections, libs, hlibs, compilands, hcompilands, sourceFiles,
    hsourceFiles, _, _, _, _, _, _, _, _, symbols, hsymbols, duplicateData, hduplicateData,
    foldability, hfoldability, wastefulVirtuals, hwastefulVirtuals, _, _, h⟩ := h
  cases h
  exact ⟨hsections, hlibs, hcompilands, hsourceFiles, hsymbols, hduplicateData, hfoldability,
    hwastefulVirtuals⟩

theorem result_ofAnalyses (h : (ofAnalyses x y).result = .ok c)
    : diffSections x.sections y.sections = .ok c.sections
      ∧ (diffContainers .libDiffs x.libs y.libs).result = .ok c.libs
      ∧ (diffContainers .compilandDiffs x.compilands y.compilands).result = .ok c.compilands
      ∧ (diffContainers .sourceFileDiffs x.sourceFiles y.sourceFiles).result
        = .ok c.sourceFiles := by
  have hpairs := pairs_of_result h
  exact ⟨hpairs.sections, hpairs.libs, hpairs.compilands, hpairs.sourceFiles⟩

theorem isPointwise_of_result (h : (ofAnalyses x y).result = .ok c) : c.IsPointwise x y := by
  have ⟨hsections, hlibs, hcompilands, hsourceFiles⟩ := result_ofAnalyses h
  constructor
  case sections =>
    intro name
    unfold section?
    rw [find?_of_diffSections hsections]
    apply compared_ofSides?
  case coffGroups =>
    intro name d hd group
    unfold section? at hd
    have hsides := find?_of_diffSections hsections name
    rw [hd, Option.map_some] at hsides
    have ⟨hbefore, hafter⟩ := Diff.ofSides?_eq_some.1 hsides.symm
    rw [coffGroups_of_diffSections hsections (List.mem_of_find?_eq_some hd), hbefore, hafter]
    apply compared_ofSides?
  case libs => exact containersCompared hlibs
  case compilands => exact containersCompared hcompilands
  case sourceFiles => exact containersCompared hsourceFiles

theorem isPointwise {m : Monitor} (h : ((ofAnalyses x y).run m).1 = .ok c)
    : c.IsPointwise x y := by
  apply isPointwise_of_result
  exact Pass.result_of_run_eq_ok h

def singleCompiland (group name : String) (size : Nat) : Snapshot where
  sections := [{ name := ".text", size, coffGroups := [{ name := group, size }] }]
  compilands := [
    { name, lib := "a.lib", contributions := [
      { sectionName := ".text", coffGroup := group, size }] }]

theorem isPointwise_singleCompiland
    : ∃ x y c, (((singleCompiland ".text$a" "a.obj" 4).analyze {} byteSimilarity).run
          (.start none)).1 = .ok x
        ∧ (((singleCompiland ".text$b" "b.obj" 9).analyze {} byteSimilarity).run
          (.start none)).1 = .ok y
        ∧ ((ofAnalyses x y).run (.start none)).1 = .ok c
        ∧ c.IsPointwise x y
        ∧ c.libs.map (fun d => (d.name, d.sizeDiff)) = [("a.lib", 5)]
        ∧ c.compilands.map (fun d => (d.name, d.sizeDiff)) = [("a.obj", -4), ("b.obj", 9)] := by
  exact ⟨_, _, _, rfl, rfl, rfl, isPointwise (m := .start none) rfl, rfl, rfl⟩

end Comparison

section Snapshots

variable {before after : Snapshot} {options : AnalysisOptions} {similarity : Similarity}
  {m : Monitor} {c : Comparison}

theorem exists_result_of_compareSnapshots
    (h : (compareSnapshots before after options similarity m).1 = .ok c)
    : ∃ x y, (before.analyze options similarity).result = .ok x
        ∧ (after.analyze options similarity).result = .ok y
        ∧ (Comparison.ofAnalyses x y).result = .ok c := by
  unfold compareSnapshots at h
  dsimp only at h
  split at h
  . next x y hx hy =>
    exact ⟨x, y, Pass.result_of_run_eq_ok hx, Pass.result_of_run_eq_ok hy,
      Pass.result_of_run_eq_ok h⟩
  . cases h
  . cases h

theorem compareSnapshots_of_result {x y : Analysis} (hnever : m.cancelAt = none)
    (hcanceled : m.canceled = false) (hx : (before.analyze options similarity).result = .ok x)
    (hy : (after.analyze options similarity).result = .ok y)
    (hc : (Comparison.ofAnalyses x y).result = .ok c)
    : (compareSnapshots before after options similarity m).1 = .ok c := by
  have hfirst := Pass.not_canceled_of_never hnever (before.analyze options similarity)
  have hsecond := Pass.not_canceled_of_never hfirst.1 (after.analyze options similarity)
  have hthird := Pass.not_canceled_of_never hsecond.1 (Comparison.ofAnalyses x y)
  rw [hcanceled] at hfirst
  rw [hfirst.2] at hsecond
  rw [hsecond.2] at hthird
  unfold compareSnapshots
  dsimp only
  rw [Pass.run_of_not_canceled hfirst.2, Pass.run_of_not_canceled hsecond.2, hx, hy]
  dsimp only
  rw [Pass.run_of_not_canceled hthird.2, hc]

theorem result_of_compareSnapshots {k l : Monitor} {x y : Analysis}
    (h : (compareSnapshots before after options similarity m).1 = .ok c)
    (hx : ((before.analyze options similarity).run k).1 = .ok x)
    (hy : ((after.analyze options similarity).run l).1 = .ok y)
    : (Comparison.ofAnalyses x y).result = .ok c := by
  have ⟨_, _, hbefore, hafter, hc⟩ := exists_result_of_compareSnapshots h
  rw [Pass.result_of_run_eq_ok hx] at hbefore
  rw [Pass.result_of_run_eq_ok hy] at hafter
  cases hbefore
  cases hafter
  exact hc

end Snapshots

end Footprint
