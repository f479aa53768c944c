import Footprint.Proofs.Snapshot.Sound

namespace Footprint

def RecordKind.all : List RecordKind :=
  [binarySection, coffGroup, compiland, sourceFile, symbol, userDefinedType]

theorem RecordKind.mem_all (kind : RecordKind) : kind ∈ all := by
  cases kind <;> simp [all]

namespace Snapshot

variable {s : Snapshot} {e : SnapshotError}

def totals (s : Snapshot) : List (SizeSum × List Nat) := [
  (.sections, s.sections.map (·.size)),
  (.sectionsInMemory, s.sections.map (·.virtualSize)),
  (.dataAndFunctions, s.staticData.map (·.size) ++ s.templatedFunctions.map (·.size))]

theorem forM_contributors (s : Snapshot)
    (f : String → List ContributionRecord → Except SnapshotError Unit)
    : (s.contributors.forM fun c => f c.1 c.2)
        = (do
          s.compilands.forM fun c => f c.name c.contributions
          s.sourceFiles.forM fun c => f c.name c.contributions) := by
  unfold contributors
  generalize s.compilands = compilands
  generalize s.sourceFiles = sourceFiles
  induction compilands with
  | nil =>
    induction sourceFiles with
    | nil => rfl
    | cons c sourceFiles ih => exact congrArg (f c.name c.contributions >>= fun _ => ·) ih
  | cons c compilands ih =>
    simp only [List.map_cons, List.cons_append, Except.forM_cons, ih, bind_assoc]

theorem check_eq (h : s.bytesPerWord ≠ 0)
    : s.check = (do
        RecordKind.all.forM fun kind => checkDistinct kind (s.namesOf kind)
        s.contributors.forM fun c => checkReferences s.sections c.1 c.2
        checkCoverage .compiland s.sections (s.recordsOf .compiland)
        checkCoverage .sourceFile s.sections (s.recordsOf .sourceFile)
        s.totals.forM fun t => checkTotal t.1 t.2
        checkCodeRanges s.templatedFunctions) := by
  unfold check
  rw [if_neg h]
  rw [forM_contributors s (checkReferences s.sections)]
  simp only [RecordKind.all, totals, Except.forM_cons, bind_assoc]
  rfl

theorem forM_checkDistinct_eq_ok
    : (RecordKind.all.forM fun kind => checkDistinct kind (s.namesOf kind)) = .ok ()
        ↔ ∀ kind, (s.namesOf kind).Nodup := by
  rw [Except.forM_eq_ok]
  simp only [checkDistinct_eq_ok, RecordKind.mem_all, true_implies]

theorem forM_checkReferences_eq_ok (h : (s.sections.map (·.name)).Nodup)
    : (s.contributors.forM fun c => checkReferences s.sections c.1 c.2) = .ok ()
        ↔ ∀ c ∈ s.contributors, ∀ r ∈ c.2, s.Places r := by
  rw [Except.forM_eq_ok]
  simp only [checkReferences_eq_ok h]

theorem forM_checkTotal_eq_ok
    : (s.totals.forM fun t => checkTotal t.1 t.2) = .ok ()
        ↔ (s.sections.map (·.size)).sum < wordLimit
          ∧ (s.sections.map (·.virtualSize)).sum < wordLimit
          ∧ (s.staticData.map (·.size)).sum + (s.templatedFunctions.map (·.size)).sum
            < wordLimit := by
  rw [Except.forM_eq_ok]
  simp [totals, checkTotal_eq_ok]

theorem records_of_contributors {P : ContributionRecord → Prop}
    (h : ∀ c ∈ s.contributors, ∀ r ∈ c.2, P r) (kind : ContainerKind)
    : ∀ r ∈ s.recordsOf kind, P r := by
  have hcompilands : ∀ r ∈ s.compilands.flatMap (·.contributions), P r := by
    intro r hr
    have ⟨c, hc, hmem⟩ := List.mem_flatMap.1 hr
    apply h (c.name, c.contributions) _ r hmem
    unfold contributors
    exact List.mem_append_left _ (List.mem_map.2 ⟨c, hc, rfl⟩)
  have hfiles : ∀ r ∈ s.sourceFiles.flatMap (·.contributions), P r := by
    intro r hr
    have ⟨f, hf, hmem⟩ := List.mem_flatMap.1 hr
    apply h (f.name, f.contributions) _ r hmem
    unfold contributors
    exact List.mem_append_right _ (List.mem_map.2 ⟨f, hf, rfl⟩)
  cases kind with
  | lib => exact hcompilands
  | compiland => exact hcompilands
  | sourceFile => exact hfiles

theorem check_eq_ok
    : s.check = .ok ()
        ↔ s.bytesPerWord ≠ 0
          ∧ (∀ kind, (s.namesOf kind).Nodup)
          ∧ (∀ c ∈ s.contributors, ∀ r ∈ c.2, s.Places r)
          ∧ (∀ kind, checkCoverage kind s.sections (s.recordsOf kind) = .ok ())
          ∧ ((s.sections.map (·.size)).sum < wordLimit
            ∧ (s.sections.map (·.virtualSize)).sum < wordLimit
            ∧ (s.staticData.map (·.size)).sum + (s.templatedFunctions.map (·.size)).sum
              < wordLimit)
          ∧ ∀ f ∈ s.templatedFunctions, f.rva + f.size < wordLimit := by
  by_cases hword : s.bytesPerWord = 0
  . unfold check
    rw [if_pos hword]
    simp only [hword, ne_eq, not_true_eq_false, false_and, iff_false]
    intro h
    cases h
  . rw [check_eq hword]
    simp only [Except.then_eq_ok, forM_checkDistinct_eq_ok, forM_checkTotal_eq_ok,
      checkCodeRanges_eq_ok]
    constructor
    . intro ⟨hnames, hplaces, hcompilands, hfiles, htotals, hcode⟩
      rw [forM_checkReferences_eq_ok (hnames .binarySection)] at hplaces
      refine ⟨hword, hnames, hplaces, ?_, htotals, hcode⟩
      intro kind
      -- Coverage does not depend on the kind but through the records.
      cases kind with
      | lib => rw [checkCoverage_eq_ok] at hcompilands ⊢; exact hcompilands
      | compiland => exact hcompilands
      | sourceFile => exact hfiles
    . intro ⟨_, hnames, hplaces, hcovered, htotals, hcode⟩
      rw [forM_checkReferences_eq_ok (hnames .binarySection)]
      exact ⟨hnames, hplaces, hcovered .compiland, hcovered .sourceFile, htotals, hcode⟩

theorem check_eq_ok_iff_sound (hs : s.InRange) : s.check = .ok () ↔ s.Sound := by
  rw [check_eq_ok]
  constructor
  . intro ⟨hword, hnames, hplaces, hcovered, ⟨hsections, hmemory, hdata⟩, hcode⟩
    refine ⟨hword, hnames, hplaces, ?_, hsections, hmemory, hdata, hcode⟩
    intro kind place size
    have hplaced := records_of_contributors hplaces kind
    exact (checkCoverage_eq_ok_of_placed hs hplaced).1 (hcovered kind) place size
  . intro h
    refine ⟨h.bytesPerWord, h.distinctNames, h.placed, ?_,
      ⟨h.sections, h.sectionsInMemory, h.dataAndFunctions⟩, h.codeRanges⟩
    intro kind
    have hplaced := records_of_contributors h.placed kind
    exact (checkCoverage_eq_ok_of_placed hs hplaced).2 (h.covered kind)

theorem trueOf_of_check_eq_error (h : s.check = .error e) : e.TrueOf s := by
  by_cases hword : s.bytesPerWord = 0
  . unfold check at h
    rw [if_pos hword] at h
    cases h
    exact ⟨rfl, hword⟩
  . rw [check_eq hword] at h
    simp only [Except.then_eq_error] at h
    rcases h with h | ⟨hnames, h⟩
    . have ⟨kind, _, hkind⟩ := Except.exists_of_forM_eq_error h
      have ⟨name, he, hcount⟩ := checkDistinct_eq_error hkind
      subst he
      exact hcount
    -- The later checks are reached only with distinct names, which they rely on.
    rw [forM_checkDistinct_eq_ok] at hnames
    rcases h with h | ⟨_, h⟩
    . have ⟨c, hc, hrefs⟩ := Except.exists_of_forM_eq_error h
      exact checkReferences_eq_error (hnames .binarySection) hc hrefs
    rcases h with h | ⟨_, h | ⟨_, h | ⟨_, h⟩⟩⟩
    . exact checkCoverage_eq_error h
    . exact checkCoverage_eq_error h
    . have ⟨t, ht, htotal⟩ := Except.exists_of_forM_eq_error h
      have ⟨he, hle⟩ := checkTotal_eq_error htotal
      subst he
      simp only [totals, List.mem_cons, List.not_mem_nil, or_false] at ht
      rcases ht with rfl | rfl | rfl
      . exact hle
      . exact hle
      . rw [List.sum_append] at hle
        exact hle
    . have ⟨f, hf, he, hle⟩ := checkCodeRanges_eq_error h
      subst he
      exact ⟨f, hf, rfl, hle⟩

theorem check_accepts_exactly_sound {value : Json} (h : ofJson? value = some s)
    : (s.check = .ok () ↔ s.Sound) ∧ ∀ e, s.check = .error e → e.TrueOf s := by
  refine ⟨check_eq_ok_iff_sound (inRange_of_ofJson? h), ?_⟩
  intro e he
  exact trueOf_of_check_eq_error he

def claimedSection (size : Nat) : Json :=
  .record [
    ("sections", .list id [
      .record [
        ("name", .text ".text"), ("size", .natural size),
        ("coff_groups", .list id [
          .record [("name", .text ".text$a"), ("size", .natural 4)],
          .record [("name", .text ".text$b"), ("size", .natural 8)]])]]),
    ("compilands", .list id [
      .record [
        ("name", .text "a.obj"), ("lib", .text "a.lib"),
        ("contributions", .list id [
          .record [
            ("section", .text ".text"), ("coff_group", .text ".text$a"), ("size", .natural 4)],
          .record [
            ("section", .text ".text"), ("coff_group", .text ".text$b"), ("size", .natural 8)]])]])]

theorem check_claimedSection
    : (∃ s, ofJson? (claimedSection 12) = some s ∧ s.check = .ok () ∧ s.Sound)
      ∧ ∃ s e, ofJson? (claimedSection 11) = some s
        ∧ e = .contributionsExceedSize .compiland (.binarySection ".text") 12 11
        ∧ s.check = .error e ∧ e.TrueOf s := by
  constructor
  . have h : ofJson? (claimedSection 12) = some _ := rfl
    exact ⟨_, h, rfl, (check_accepts_exactly_sound h).1.1 rfl⟩
  . have h : ofJson? (claimedSection 11) = some _ := rfl
    exact ⟨_, _, h, rfl, rfl, (check_accepts_exactly_sound h).2 _ rfl⟩

end Snapshot
end Footprint
