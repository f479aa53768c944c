import Footprint.Proofs.Balance
import Footprint.Proofs.Snapshot.Places
import Footprint.Report.Consistency

/-!
This module contains when the report on two builds is inconsistent although its compilands account
for every byte. Sections are compared by name and COFF groups inside their sections, but compilands
by the names of COFF groups alone, so the two differ exactly where a COFF group has moved.
-/

namespace Footprint

section Places

variable {xs ys : List BinarySection} {diffs : List SectionDiff} {name group : String}
  {change : Int}

theorem nodup_names_diffSections (h : diffSections xs ys = .ok diffs)
    : (diffs.map (·.name)).Nodup := by
  have ⟨pairs, hpairs, hall⟩ := diffSections_eq_ok.1 h
  have hnodup := nodup_keys_of_pairByKey hpairs
  rw [← map_diff_of_diffSections hall, List.map_map] at hnodup
  exact hnodup

theorem exists_mem_diffSections_iff (h : diffSections xs ys = .ok diffs)
    {pair : Diff BinarySection}
    : (∃ d ∈ diffs, d.name = name ∧ d.diff = pair)
        ↔ Diff.ofSides? (findByName? xs name) (findByName? ys name) = some pair := by
  rw [← find?_of_diffSections h, Option.map_eq_some_iff]
  simp only [find?_key_eq_some_iff (nodup_names_diffSections h), and_assoc]

theorem mem_diffPlaces_binarySection (h : diffSections xs ys = .ok diffs)
    : (.binarySection name, change) ∈ diffPlaces diffs
        ↔ ∃ pair, Diff.ofSides? (findByName? xs name) (findByName? ys name) = some pair
          ∧ pair.sizeDiff = change := by
  simp only [← exists_mem_diffSections_iff h]
  unfold diffPlaces
  simp only [List.mem_flatMap, List.mem_cons, List.mem_map, Prod.mk.injEq,
    Place.binarySection.injEq, reduceCtorEq, false_and, and_false, exists_false, or_false]
  constructor
  . rintro ⟨d, hd, rfl, rfl⟩
    exact ⟨_, ⟨d, hd, rfl, rfl⟩, rfl⟩
  . rintro ⟨_, ⟨d, hd, rfl, rfl⟩, rfl⟩
    exact ⟨d, hd, rfl, rfl⟩

theorem mem_diffPlaces_coffGroup (h : diffSections xs ys = .ok diffs)
    : (.coffGroup group, change) ∈ diffPlaces diffs
        ↔ ∃ name g, Diff.ofSides? (coffGroupIn? (findByName? xs name) group)
            (coffGroupIn? (findByName? ys name) group) = some g
          ∧ g.sizeDiff = change := by
  unfold diffPlaces
  simp only [List.mem_flatMap, List.mem_cons, List.mem_map, Prod.mk.injEq, Place.coffGroup.injEq,
    reduceCtorEq, false_and, false_or]
  constructor
  . rintro ⟨d, hd, ⟨_, g⟩, he, rfl, rfl⟩
    have ⟨hbefore, hafter⟩ := Diff.ofSides?_eq_some.1
      ((exists_mem_diffSections_iff h).1 ⟨d, hd, rfl, rfl⟩)
    refine ⟨d.name, g, ?_, rfl⟩
    rw [← hbefore, ← hafter, ← coffGroups_of_diffSections h hd]
    exact Roster.find?_eq_some_iff.2 he
  . rintro ⟨name, g, hg, rfl⟩
    have hsides : (Diff.ofSides? (findByName? xs name) (findByName? ys name)).isSome := by
      have hsome := Option.isSome_of_eq_some hg
      rw [Diff.isSome_ofSides?] at hsome ⊢
      apply hsome.imp
      . cases findByName? xs name <;> simp [coffGroupIn?, findByName?]
      . cases findByName? ys name <;> simp [coffGroupIn?, findByName?]
    have ⟨pair, hpair⟩ := Option.isSome_iff_exists.1 hsides
    obtain ⟨d, hd, rfl, rfl⟩ := (exists_mem_diffSections_iff h).2 hpair
    have ⟨hbefore, hafter⟩ := Diff.ofSides?_eq_some.1 hpair
    rw [← hbefore, ← hafter, ← coffGroups_of_diffSections h hd] at hg
    exact ⟨d, hd, (group, g), Roster.find?_eq_some_iff.1 hg, rfl, rfl⟩

end Places

section Compilands

variable {α : Type} [Container α] {before after : List α} {diffs : List (ContainerDiff α)}
  {task : Task}

theorem signedTotal_sizeDiffAt (h : (diffContainers task before after).result = .ok diffs)
    (p : Place)
    (hbefore : (before.map fun c => ((Container.contributions c).extentAt p).size).sum ≤ maxSigned)
    (hafter : (after.map fun c => ((Container.contributions c).extentAt p).size).sum ≤ maxSigned)
    : Quantity.signedTotal (diffs.map (·.contributions.sizeDiffAt p))
        = ((after.map fun c => ((Container.contributions c).extentAt p).size).sum : Int)
          - (before.map fun c => ((Container.contributions c).extentAt p).size).sum := by
  have ⟨pairs, hsides, hdiffs⟩ := exists_sidesAddUp_of_diffContainers h p
  rw [hdiffs]
  exact hsides.signedTotal_deltaBy _ hbefore hafter

theorem checkContainerDiffs_eq_nil (h : ∀ d ∈ diffs, d.IsExact)
    : checkContainerDiffs diffs = [] := by
  unfold checkContainerDiffs
  rw [List.filterMap_eq_nil_iff]
  intro d hd
  exact if_pos ⟨(h d hd).sections, (h d hd).coffGroups⟩

end Compilands

structure Snapshot.WithinSigned (s : Snapshot) : Prop where
  check : s.check = .ok ()
  inRange : (s.sections.map (·.size)).sum ≤ maxSigned
  coffGroups : ∀ sec ∈ s.sections, ∀ g ∈ sec.coffGroups, g.size ≤ maxSigned

structure Snapshot.Accounted (s : Snapshot) : Prop where
  check : s.check = .ok ()
  attributed : s.FullyAttributed
  inRange : (s.sections.map (·.size)).sum ≤ maxSigned

structure Moves (s t : Snapshot) (group source target : String) (before after : Nat) : Prop where
  ne : source ≠ target
  before : s.HoldsIn source group before
  after : t.HoldsIn target group after

section WithinSigned

variable {s t : Snapshot} {name group : String} {change : Int} {a : Nat}

theorem sizeIn_le_maxSigned (h : s.check = .ok ()) (hin : (s.sections.map (·.size)).sum ≤ maxSigned)
    (p : Place)
    : sizeIn p (s.recordsOf .compiland) ≤ maxSigned := by
  have hrecords : sizeIn p (s.recordsOf .compiland)
      ≤ ((s.recordsOf .compiland).map (·.size)).sum :=
    (List.filter_sublist.map _).sum_le_sum fun _ _ => Nat.zero_le _
  exact hrecords.trans ((sum_size_recordsOf_le h .compiland).trans hin)

theorem Snapshot.WithinSigned.sizeIn_le (h : s.WithinSigned) (p : Place)
    : sizeIn p (s.recordsOf .compiland) ≤ maxSigned := by
  exact sizeIn_le_maxSigned h.check h.inRange p

theorem Snapshot.WithinSigned.le_of_holdsIn (h : s.WithinSigned) (hin : s.HoldsIn name group a)
    : a ≤ maxSigned := by
  obtain ⟨sec, hsec, _, g, hg, _, rfl⟩ := hin
  exact h.coffGroups sec hsec g hg

theorem mem_diffPlaces_iff_holdsIn (hs : s.WithinSigned) (ht : t.WithinSigned)
    {diffs : List SectionDiff}
    (h : diffSections (s.sections.map BinarySection.ofRecord)
      (t.sections.map BinarySection.ofRecord) = .ok diffs)
    : (.coffGroup group, change) ∈ diffPlaces diffs
        ↔ ∃ name, (∃ a b, s.HoldsIn name group a ∧ t.HoldsIn name group b ∧ change = b - a)
          ∨ (∃ a, s.HoldsIn name group a ∧ (∀ b, ¬t.HoldsIn name group b) ∧ change = -a)
          ∨ ∃ b, (∀ a, ¬s.HoldsIn name group a) ∧ t.HoldsIn name group b ∧ change = b := by
  rw [mem_diffPlaces_coffGroup h]
  apply exists_congr
  intro name
  have hbefore : ∀ a, s.HoldsIn name group a → a ≤ maxSigned := fun a => hs.le_of_holdsIn
  have hafter : ∀ b, t.HoldsIn name group b → b ≤ maxSigned := fun b => ht.le_of_holdsIn
  simp only [Snapshot.holdsIn_iff hs.check] at hbefore ⊢
  simp only [Snapshot.holdsIn_iff ht.check] at hafter ⊢
  generalize coffGroupIn? (findByName? (s.sections.map _) name) group = before at hbefore ⊢
  generalize coffGroupIn? (findByName? (t.sections.map _) name) group = after at hafter ⊢
  cases before with
  | none =>
    cases after with
    | none => simp [Diff.ofSides?]
    | some g =>
      have hdelta : (Diff.afterOnly g).sizeDiff = Sized.size g :=
        (Quantity.delta_of_le (Nat.zero_le _) (hafter _ rfl)).trans (sub_zero _)
      simp [Diff.ofSides?, hdelta, eq_comm]
  | some f =>
    cases after with
    | none =>
      have hdelta : (Diff.beforeOnly f).sizeDiff = -Sized.size f :=
        (Quantity.delta_of_le (hbefore _ rfl) (Nat.zero_le _)).trans (zero_sub _)
      simp [Diff.ofSides?, hdelta, eq_comm]
    | some g =>
      have hdelta : (Diff.both f g).sizeDiff = Sized.size g - Sized.size f :=
        Quantity.delta_of_le (hbefore _ rfl) (hafter _ rfl)
      simp [Diff.ofSides?, hdelta, eq_comm]

theorem mem_checkPlaceDiffs {c : Comparison} {i : Inconsistency}
    : i ∈ checkPlaceDiffs c
        ↔ ∃ p change, ((p, change) ∈ diffPlaces c.sections
            ∧ Quantity.signedTotal (c.compilands.map (·.contributions.sizeDiffAt p)) ≠ change)
          ∧ i = .placeDiff p change
            (Quantity.signedTotal (c.compilands.map (·.contributions.sizeDiffAt p))) := by
  unfold checkPlaceDiffs
  simp only [List.mem_filterMap, Prod.exists, Option.ite_none_left_eq_some, Option.some.injEq,
    and_assoc, ne_eq, eq_comm (b := i)]

variable {x y : Analysis} {c : Comparison} {options : AnalysisOptions} {similarity : Similarity}

theorem signedTotal_compilands (hs : s.WithinSigned) (ht : t.WithinSigned)
    (hx : (s.analyze options similarity).result = .ok x)
    (hy : (t.analyze options similarity).result = .ok y) (hc : c.Pairs x y) (p : Place)
    : Quantity.signedTotal (c.compilands.map (·.contributions.sizeDiffAt p))
        = (sizeIn p (t.recordsOf .compiland) : Int) - sizeIn p (s.recordsOf .compiland) := by
  have hbefore := (conserves_of_result_analyze hs.check hx).2.compilandPlaces p
  have hafter := (conserves_of_result_analyze ht.check hy).2.compilandPlaces p
  rw [← hbefore, ← hafter]
  apply signedTotal_sizeDiffAt hc.compilands
  . exact hbefore.trans_le (hs.sizeIn_le p)
  . exact hafter.trans_le (ht.sizeIn_le p)

theorem inconsistencies_eq (hs : s.WithinSigned) (ht : t.WithinSigned)
    (hx : (s.analyze options similarity).result = .ok x)
    (hy : (t.analyze options similarity).result = .ok y)
    (hc : (Comparison.ofAnalyses x y).result = .ok c)
    : (Report.ofComparison c).inconsistencies = checkPlaceDiffs c := by
  have hexact := Comparison.pairsExactly_of_result
    (isBalanced_of_result_analyze hs.check hx) (isBalanced_of_result_analyze ht.check hy)
    (not_exceedsSigned hs.check hx hs.inRange) (not_exceedsSigned ht.check hy ht.inRange) hc
  show checkContainerDiffs c.libs ++ checkContainerDiffs c.compilands
    ++ checkContainerDiffs c.sourceFiles ++ checkPlaceDiffs c = _
  rw [checkContainerDiffs_eq_nil hexact.exactLibs,
    checkContainerDiffs_eq_nil hexact.exactCompilands,
    checkContainerDiffs_eq_nil hexact.exactSourceFiles]
  rfl

end WithinSigned

section Accounted

variable {s t : Snapshot} {p : Place} {name group : String} {change : Int} {a b : Nat}

theorem Snapshot.Accounted.sizeIn_le (h : s.Accounted) (p : Place)
    : sizeIn p (s.recordsOf .compiland) ≤ maxSigned := by
  exact sizeIn_le_maxSigned h.check h.inRange p

theorem Snapshot.Accounted.sizeIn_of_holdsIn (h : s.Accounted) (hin : s.HoldsIn name group a)
    : sizeIn (.coffGroup group) (s.recordsOf .compiland) = a := by
  exact h.attributed _ _ (Snapshot.holds_coffGroup_iff.2 ⟨name, hin⟩)

theorem Snapshot.Accounted.withinSigned (h : s.Accounted) : s.WithinSigned where
  check := h.check
  inRange := h.inRange
  coffGroups sec hsec g hg := by
    rw [← h.sizeIn_of_holdsIn ⟨sec, hsec, rfl, g, hg, rfl, rfl⟩]
    exact h.sizeIn_le _

theorem Snapshot.Accounted.sizeIn_of_not_holdsIn (h : s.Accounted)
    (hnone : ∀ name a, ¬s.HoldsIn name group a)
    : sizeIn (.coffGroup group) (s.recordsOf .compiland) = 0 := by
  apply Snapshot.sizeIn_eq_zero h.check
  intro size hholds
  have ⟨name, hin⟩ := Snapshot.holds_coffGroup_iff.1 hholds
  exact hnone name size hin

theorem Snapshot.Accounted.elim_section (h : s.Accounted) (name : String)
    : (findByName? (s.sections.map BinarySection.ofRecord) name).elim 0 Sized.size
        = sizeIn (.binarySection name) (s.recordsOf .compiland) := by
  have hholds (size : Nat) : s.Holds size (.binarySection name) ↔ _ :=
    Snapshot.holds_binarySection_iff h.check
  cases hfind : findByName? (s.sections.map BinarySection.ofRecord) name with
  | none =>
    simp only [hfind, Option.map_none, reduceCtorEq, iff_false] at hholds
    exact (Snapshot.sizeIn_eq_zero h.check .compiland hholds).symm
  | some sec =>
    simp only [hfind, Option.map_some, Option.some.injEq] at hholds
    exact (h.attributed _ _ ((hholds _).2 rfl)).symm

theorem section_balances (hs : s.Accounted) (ht : t.Accounted) {diffs : List SectionDiff}
    (h : diffSections (s.sections.map BinarySection.ofRecord)
      (t.sections.map BinarySection.ofRecord) = .ok diffs)
    (hmem : (.binarySection name, change) ∈ diffPlaces diffs)
    : change = (sizeIn (.binarySection name) (t.recordsOf .compiland) : Int)
        - sizeIn (.binarySection name) (s.recordsOf .compiland) := by
  obtain ⟨pair, hpair, rfl⟩ := (mem_diffPlaces_binarySection h).1 hmem
  have ⟨hbefore, hafter⟩ := Diff.ofSides?_eq_some.1 hpair
  show Quantity.delta (pair.before?.elim 0 Sized.size) (pair.after?.elim 0 Sized.size) = _
  rw [hbefore, hafter, hs.elim_section, ht.elim_section,
    Quantity.delta_of_le (hs.sizeIn_le _) (ht.sizeIn_le _)]

theorem group_unbalanced_iff (hs : s.Accounted) (ht : t.Accounted) {diffs : List SectionDiff}
    (h : diffSections (s.sections.map BinarySection.ofRecord)
      (t.sections.map BinarySection.ofRecord) = .ok diffs)
    {gained : Int}
    (hgained : gained = (sizeIn (.coffGroup group) (t.recordsOf .compiland) : Int)
      - sizeIn (.coffGroup group) (s.recordsOf .compiland))
    : (.coffGroup group, change) ∈ diffPlaces diffs ∧ gained ≠ change
        ↔ ∃ source target a b, Moves s t group source target a b ∧ gained = b - a
          ∧ (b ≠ 0 ∧ change = -a ∨ a ≠ 0 ∧ change = b) := by
  rw [mem_diffPlaces_iff_holdsIn hs.withinSigned ht.withinSigned h]
  constructor
  . rintro ⟨⟨name, ⟨a, b, hbefore, hafter, rfl⟩ | ⟨a, hbefore, hnone, rfl⟩
      | ⟨b, hnone, hafter, rfl⟩⟩, hne⟩
    . rw [hs.sizeIn_of_holdsIn hbefore, ht.sizeIn_of_holdsIn hafter] at hgained
      exact absurd hgained hne
    . rw [hs.sizeIn_of_holdsIn hbefore] at hgained
      by_cases hafter : ∃ target b, t.HoldsIn target group b
      . obtain ⟨target, b, hafter⟩ := hafter
        rw [ht.sizeIn_of_holdsIn hafter] at hgained
        have hmoved : name ≠ target := by
          rintro rfl
          exact hnone b hafter
        exact ⟨name, target, a, b, ⟨hmoved, hbefore, hafter⟩, hgained, .inl ⟨by omega, rfl⟩⟩
      -- A group of one build alone is balanced, so it cannot stand here.
      . push Not at hafter
        rw [ht.sizeIn_of_not_holdsIn hafter] at hgained
        omega
    . rw [ht.sizeIn_of_holdsIn hafter] at hgained
      by_cases hbefore : ∃ source a, s.HoldsIn source group a
      . obtain ⟨source, a, hbefore⟩ := hbefore
        rw [hs.sizeIn_of_holdsIn hbefore] at hgained
        have hmoved : source ≠ name := by
          rintro rfl
          exact hnone a hbefore
        exact ⟨source, name, a, b, ⟨hmoved, hbefore, hafter⟩, hgained, .inr ⟨by omega, rfl⟩⟩
      . push Not at hbefore
        rw [hs.sizeIn_of_not_holdsIn hbefore] at hgained
        omega
  . rintro ⟨source, target, a, b, hmoves, rfl, ⟨hb, rfl⟩ | ⟨ha, rfl⟩⟩
    . refine ⟨⟨source, .inr (.inl ⟨a, hmoves.before, ?_, rfl⟩)⟩, by omega⟩
      intro b' hin
      exact hmoves.ne (hin.unique ht.check hmoves.after).1
    . refine ⟨⟨target, .inr (.inr ⟨b, ?_, hmoves.after, rfl⟩)⟩, by omega⟩
      intro a' hin
      exact hmoves.ne (hmoves.before.unique hs.check hin).1

section Comparisons

variable {x y : Analysis} {c : Comparison} {options : AnalysisOptions} {similarity : Similarity}

theorem mem_inconsistencies_iff (hs : s.Accounted) (ht : t.Accounted)
    (hx : (s.analyze options similarity).result = .ok x)
    (hy : (t.analyze options similarity).result = .ok y)
    (hc : (Comparison.ofAnalyses x y).result = .ok c) {i : Inconsistency}
    : i ∈ (Report.ofComparison c).inconsistencies
        ↔ ∃ group source target a b, Moves s t group source target a b
          ∧ (b ≠ 0 ∧ i = .placeDiff (.coffGroup group) (-a) (b - a)
            ∨ a ≠ 0 ∧ i = .placeDiff (.coffGroup group) b (b - a)) := by
  have hpairs := Comparison.pairs_of_result hc
  have hsections := hpairs.sections
  rw [(Snapshot.makes_of_result_analyze hx).sections,
    (Snapshot.makes_of_result_analyze hy).sections] at hsections
  have htotal := signedTotal_compilands hs.withinSigned ht.withinSigned hx hy hpairs
  rw [inconsistencies_eq hs.withinSigned ht.withinSigned hx hy hc, mem_checkPlaceDiffs]
  constructor
  . rintro ⟨p, change, hunbalanced, rfl⟩
    cases p with
    | binarySection name =>
      have hbalances := section_balances hs ht hsections hunbalanced.1
      exact absurd ((htotal _).trans hbalances.symm) hunbalanced.2
    | coffGroup group =>
      obtain ⟨source, target, a, b, hmoves, hgained, hchange⟩ :=
        (group_unbalanced_iff hs ht hsections (htotal _)).1 hunbalanced
      rw [hgained]
      refine ⟨group, source, target, a, b, hmoves, ?_⟩
      rcases hchange with ⟨hb, rfl⟩ | ⟨ha, rfl⟩
      . exact .inl ⟨hb, rfl⟩
      . exact .inr ⟨ha, rfl⟩
  . rintro ⟨group, source, target, a, b, hmoves, hchange⟩
    have hgained : Quantity.signedTotal
        (c.compilands.map (·.contributions.sizeDiffAt (.coffGroup group))) = b - a := by
      rw [htotal, hs.sizeIn_of_holdsIn hmoves.before, ht.sizeIn_of_holdsIn hmoves.after]
    rcases hchange with ⟨hb, rfl⟩ | ⟨ha, rfl⟩
    . refine ⟨.coffGroup group, -a, ?_, by rw [hgained]⟩
      exact (group_unbalanced_iff hs ht hsections (htotal _)).2
        ⟨source, target, a, b, hmoves, hgained, .inl ⟨hb, rfl⟩⟩
    . refine ⟨.coffGroup group, b, ?_, by rw [hgained]⟩
      exact (group_unbalanced_iff hs ht hsections (htotal _)).2
        ⟨source, target, a, b, hmoves, hgained, .inr ⟨ha, rfl⟩⟩

theorem validate_none_eq_ok {r : Report} : r.validate none = .ok () ↔ r.inconsistencies = [] := by
  unfold Report.validate
  rw [← List.length_eq_zero_iff]
  dsimp only
  split
  . next hpos => simp [Nat.ne_of_gt hpos]
  . next hnot => simp [Nat.eq_zero_of_not_pos hnot]

theorem Report.consistent_unless_moved {m : Monitor} (hs : s.Accounted) (ht : t.Accounted)
    (hc : (compareSnapshots s t options similarity m).1 = .ok c)
    : (∀ i, i ∈ (ofComparison c).inconsistencies
        ↔ ∃ group source target a b, Moves s t group source target a b
          ∧ (b ≠ 0 ∧ i = .placeDiff (.coffGroup group) (-a) (b - a)
            ∨ a ≠ 0 ∧ i = .placeDiff (.coffGroup group) b (b - a)))
      ∧ ((ofComparison c).validate none = .ok ()
        ↔ ∀ group source target a b, Moves s t group source target a b → a = 0 ∧ b = 0) := by
  have ⟨x, y, hx, hy, hresult⟩ := exists_result_of_compareSnapshots hc
  have hiff (i : Inconsistency) := mem_inconsistencies_iff (i := i) hs ht hx hy hresult
  refine ⟨hiff, ?_⟩
  rw [validate_none_eq_ok, List.eq_nil_iff_forall_not_mem]
  simp only [hiff]
  constructor
  . intro hnone group source target a b hmoves
    constructor
    . by_contra ha
      exact hnone _ ⟨group, source, target, a, b, hmoves, .inr ⟨ha, rfl⟩⟩
    . by_contra hb
      exact hnone _ ⟨group, source, target, a, b, hmoves, .inl ⟨hb, rfl⟩⟩
  . rintro hempty i ⟨group, source, target, a, b, hmoves, hchange⟩
    have ⟨ha, hb⟩ := hempty group source target a b hmoves
    rcases hchange with ⟨hne, _⟩ | ⟨hne, _⟩
    . exact hne hb
    . exact hne ha

def groupIn (sectionName : String) (size : Nat) : Snapshot where
  sections := [{ name := sectionName, size, coffGroups := [{ name := "shared", size }] }]
  compilands := [
    { name := "a.obj", lib := "a.lib", contributions := [
      { sectionName, coffGroup := "shared", size }] }]

theorem Report.consistent_unless_moved_groupIn
    : ∃ c d, (compareSnapshots (groupIn ".text" 4) (groupIn ".text" 6) {} byteSimilarity
          (.start none)).1 = .ok c
        ∧ (compareSnapshots (groupIn ".text" 4) (groupIn ".data" 6) {} byteSimilarity
          (.start none)).1 = .ok d
        ∧ (ofComparison c).validate none = .ok ()
        ∧ .placeDiff (.coffGroup "shared") (-4) 2 ∈ (ofComparison d).inconsistencies := by
  have hearlier : (groupIn ".text" 4).Accounted := ⟨rfl, by decide, by decide⟩
  have hgrown : (groupIn ".text" 6).Accounted := ⟨rfl, by decide, by decide⟩
  have hmoved : (groupIn ".data" 6).Accounted := ⟨rfl, by decide, by decide⟩
  obtain ⟨c, hc⟩ : ∃ c, (compareSnapshots (groupIn ".text" 4) (groupIn ".text" 6) {}
      byteSimilarity (.start none)).1 = .ok c := ⟨_, rfl⟩
  obtain ⟨d, hd⟩ : ∃ d, (compareSnapshots (groupIn ".text" 4) (groupIn ".data" 6) {}
      byteSimilarity (.start none)).1 = .ok d := ⟨_, rfl⟩
  refine ⟨c, d, hc, hd, (consistent_unless_moved hearlier hgrown hc).2.2 ?_,
    ((consistent_unless_moved hearlier hmoved hd).1 _).2 ?_⟩
  . rintro _ _ _ _ _ ⟨hne, ⟨_, hsec, rfl, _⟩, ⟨_, hsec', rfl, _⟩⟩
    cases List.mem_singleton.1 hsec
    cases List.mem_singleton.1 hsec'
    exact absurd rfl hne
  . refine ⟨"shared", ".text", ".data", 4, 6, ⟨by decide, ?_, ?_⟩, .inl ⟨by decide, rfl⟩⟩
    . exact ⟨_, List.mem_singleton_self _, rfl, _, List.mem_singleton_self _, rfl, rfl⟩
    . exact ⟨_, List.mem_singleton_self _, rfl, _, List.mem_singleton_self _, rfl, rfl⟩

theorem Report.inconsistent_groupIn
    : ∃ c, (compareSnapshots (groupIn ".text" 4) (groupIn ".data" 4) {} byteSimilarity
          (.start none)).1 = .ok c
        ∧ (groupIn ".text" 4).Accounted ∧ (groupIn ".data" 4).Accounted
        ∧ (ofComparison c).inconsistencies = [
          .placeDiff (.coffGroup "shared") (-4) 0, .placeDiff (.coffGroup "shared") 4 0]
        ∧ (ofComparison c).validate none = .error (.inconsistent 2) := by
  -- Each section shows its own change, but over all sections nothing is gained.
  exact ⟨_, rfl, ⟨rfl, by decide, by decide⟩, ⟨rfl, by decide, by decide⟩, rfl, rfl⟩

end Comparisons

end Accounted

end Footprint
