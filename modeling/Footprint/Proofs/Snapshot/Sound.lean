import Footprint.Proofs.Contributions
import Footprint.Proofs.Except
import Footprint.Proofs.Snapshot.Range
import Footprint.Snapshot.Check

/-!
This module contains what it means for a snapshot to be sound, said without the checks and without
a limit on sums, and what each error says about a snapshot. The main result is that the checks
accept exactly the sound snapshots, and that an error is always true of the snapshot.
-/

namespace Footprint

def ContributionRecord.liesIn (r : ContributionRecord) : Place → Bool
  | .binarySection name => r.sectionName = name
  | .coffGroup name => r.coffGroup = name

def sizeIn (p : Place) (records : List ContributionRecord) : Nat :=
  ((records.filter (·.liesIn p)).map (·.size)).sum

def virtualSizeIn (p : Place) (records : List ContributionRecord) : Nat :=
  ((records.filter (·.liesIn p)).map (·.virtualSize)).sum

namespace Snapshot

def namesOf (s : Snapshot) : RecordKind → List String
  | .binarySection => s.sections.map (·.name)
  | .coffGroup => s.sections.flatMap fun sec => sec.coffGroups.map (·.name)
  | .compiland => s.compilands.map (·.name)
  | .sourceFile => s.sourceFiles.map (·.name)
  | .symbol => s.symbols.map (·.name)
  | .userDefinedType => s.userDefinedTypes.map (·.name)

def recordsOf (s : Snapshot) : ContainerKind → List ContributionRecord
  | .lib => s.compilands.flatMap (·.contributions)
  | .compiland => s.compilands.flatMap (·.contributions)
  | .sourceFile => s.sourceFiles.flatMap (·.contributions)

def contributors (s : Snapshot) : List (String × List ContributionRecord) :=
  s.compilands.map (fun c => (c.name, c.contributions))
    ++ s.sourceFiles.map fun f => (f.name, f.contributions)

def Places (s : Snapshot) (r : ContributionRecord) : Prop :=
  ∃ sec ∈ s.sections, sec.name = r.sectionName ∧ ∃ g ∈ sec.coffGroups, g.name = r.coffGroup

def Holds (s : Snapshot) (size : Nat) : Place → Prop
  | .binarySection name => ∃ sec ∈ s.sections, sec.name = name ∧ sec.size = size
  | .coffGroup name => ∃ sec ∈ s.sections, ∃ g ∈ sec.coffGroups, g.name = name ∧ g.size = size

/-- Whether a snapshot can be analyzed. All sums are taken without a limit. -/
structure Sound (s : Snapshot) : Prop where
  bytesPerWord : s.bytesPerWord ≠ 0
  distinctNames : ∀ kind, (s.namesOf kind).Nodup
  placed : ∀ c ∈ s.contributors, ∀ r ∈ c.2, s.Places r
  covered : ∀ kind place size, s.Holds size place →
    sizeIn place (s.recordsOf kind) ≤ size ∧ virtualSizeIn place (s.recordsOf kind) < wordLimit
  sections : (s.sections.map (·.size)).sum < wordLimit
  sectionsInMemory : (s.sections.map (·.virtualSize)).sum < wordLimit
  dataAndFunctions :
    (s.staticData.map (·.size)).sum + (s.templatedFunctions.map (·.size)).sum < wordLimit
  codeRanges : ∀ f ∈ s.templatedFunctions, f.rva + f.size < wordLimit

end Snapshot

def SizeSum.Overflows (s : Snapshot) : SizeSum → Prop
  | contributions kind place =>
    wordLimit ≤ sizeIn place (s.recordsOf kind) ∨ wordLimit ≤ virtualSizeIn place (s.recordsOf kind)
  | sections => wordLimit ≤ (s.sections.map (·.size)).sum
  | sectionsInMemory => wordLimit ≤ (s.sections.map (·.virtualSize)).sum
  | dataAndFunctions =>
    wordLimit ≤ (s.staticData.map (·.size)).sum + (s.templatedFunctions.map (·.size)).sum
  | codeRange function => ∃ f ∈ s.templatedFunctions, f.name = function ∧ wordLimit ≤ f.rva + f.size

def SnapshotError.TrueOf (s : Snapshot) : SnapshotError → Prop
  | malformed _ => False
  | duplicateName kind name => 2 ≤ (s.namesOf kind).count name
  | unknownSection container sectionName =>
    ∃ c ∈ s.contributors, c.1 = container ∧ (∃ r ∈ c.2, r.sectionName = sectionName)
      ∧ ∀ sec ∈ s.sections, sec.name ≠ sectionName
  | unknownCoffGroup container sectionName coffGroup =>
    ∃ c ∈ s.contributors, c.1 = container
      ∧ (∃ r ∈ c.2, r.sectionName = sectionName ∧ r.coffGroup = coffGroup ∧ ¬s.Places r)
      ∧ ∃ sec ∈ s.sections, sec.name = sectionName
  | invalidBytesPerWord bytesPerWord => s.bytesPerWord = bytesPerWord ∧ bytesPerWord = 0
  | contributionsExceedSize kind place contributed size =>
    s.Holds size place ∧ contributed = sizeIn place (s.recordsOf kind) ∧ size < contributed
  | sizeOverflow sum => sum.Overflows s

section Distinct

variable {kind : RecordKind} {names : List String} {e : SnapshotError}

theorem checkDistinct_eq_ok : checkDistinct kind names = .ok () ↔ names.Nodup := by
  rw [← firstRepeat?_eq_none]
  unfold checkDistinct
  cases firstRepeat? names <;> simp

theorem checkDistinct_eq_error (h : checkDistinct kind names = .error e)
    : ∃ name, e = .duplicateName kind name ∧ 2 ≤ names.count name := by
  unfold checkDistinct at h
  cases hrepeat : firstRepeat? names with
  | none => simp [hrepeat] at h
  | some name =>
    rw [hrepeat] at h
    cases h
    exact ⟨name, rfl, count_of_firstRepeat?_eq_some hrepeat⟩

end Distinct

section References

variable {s : Snapshot} {container : String} {records : List ContributionRecord}
  {r : ContributionRecord} {e : SnapshotError}

theorem checkReferences_eq_ok (h : (s.sections.map (·.name)).Nodup)
    : checkReferences s.sections container records = .ok () ↔ ∀ r ∈ records, s.Places r := by
  unfold checkReferences
  rw [Except.forM_eq_ok]
  apply forall₂_congr
  intro r _
  unfold Snapshot.Places
  cases hfind : s.sections.find? (·.name = r.sectionName) with
  | none =>
    rw [find?_key_eq_none_iff] at hfind
    simp only [reduceCtorEq, false_iff, not_exists, not_and]
    intro sec hmem hname
    exact absurd (List.mem_map.2 ⟨sec, hmem, hname⟩) hfind
  | some found =>
    have ⟨hmem, hname⟩ := (find?_key_eq_some_iff h).1 hfind
    simp only [List.mem_map]
    constructor
    . intro hok
      split at hok
      . next hgroup => exact ⟨found, hmem, hname, hgroup⟩
      . cases hok
    . intro ⟨sec, hsec, heq, hgroup⟩
      rw [(find?_key_eq_some_iff h).2 ⟨hsec, heq⟩] at hfind
      cases hfind
      rw [if_pos hgroup]

theorem checkReferences_eq_error (h : (s.sections.map (·.name)).Nodup)
    (hcontainer : (container, records) ∈ s.contributors)
    (herror : checkReferences s.sections container records = .error e)
    : e.TrueOf s := by
  unfold checkReferences at herror
  have ⟨r, hr, hfail⟩ := Except.exists_of_forM_eq_error herror
  cases hfind : s.sections.find? (·.name = r.sectionName) with
  | none =>
    rw [hfind] at hfail
    cases hfail
    rw [find?_key_eq_none_iff] at hfind
    refine ⟨_, hcontainer, rfl, ⟨r, hr, rfl⟩, ?_⟩
    intro sec hmem hname
    exact absurd (List.mem_map.2 ⟨sec, hmem, hname⟩) hfind
  | some found =>
    have ⟨hmem, hname⟩ := (find?_key_eq_some_iff h).1 hfind
    simp only [hfind, List.mem_map] at hfail
    split at hfail
    . cases hfail
    . next hgroup =>
      cases hfail
      refine ⟨_, hcontainer, rfl, ⟨r, hr, rfl, rfl, ?_⟩, found, hmem, hname⟩
      intro ⟨sec, hsec, heq, hlisted⟩
      rw [(find?_key_eq_some_iff h).2 ⟨hsec, heq⟩] at hfind
      cases hfind
      exact hgroup hlisted

end References

section Coverage

variable {s : Snapshot} {kind : ContainerKind} {p : Place} {size : Nat} {e : SnapshotError}

theorem amountAt_record (p : Place) (r : ContributionRecord)
    : amountAt p r.postings = if r.liesIn p then r.extent else 0 := by
  unfold ContributionRecord.postings
  rw [amountAt_cons, amountAt_cons]
  cases p with
  | binarySection name =>
    simp [ContributionRecord.liesIn, amountAt, amountIn_nil]
  | coffGroup name =>
    simp [ContributionRecord.liesIn, amountAt, amountIn_nil]

theorem amountAt_records (p : Place) (records : List ContributionRecord)
    : amountAt p (records.flatMap ContributionRecord.postings)
        = ((records.filter (·.liesIn p)).map ContributionRecord.extent).sum := by
  induction records with
  | nil => rfl
  | cons r records ih =>
    unfold amountAt at ih ⊢
    rw [List.flatMap_cons, amountIn_append, ih, sum_map_filter_cons]
    congr 1
    exact amountAt_record p r

theorem size_amountAt_records (p : Place) (records : List ContributionRecord)
    : (amountAt p (records.flatMap ContributionRecord.postings)).size = sizeIn p records := by
  rw [amountAt_records, Extent.size_sum, List.map_map]
  rfl

theorem virtualSize_amountAt_records (p : Place) (records : List ContributionRecord)
    : (amountAt p (records.flatMap ContributionRecord.postings)).virtualSize
        = virtualSizeIn p records := by
  rw [amountAt_records, Extent.virtualSize_sum, List.map_map]
  rfl

theorem fits_amountAt_records {records : List ContributionRecord}
    : (amountAt p (records.flatMap ContributionRecord.postings)).Fits
        ↔ sizeIn p records < wordLimit ∧ virtualSizeIn p records < wordLimit := by
  unfold Extent.Fits
  rw [size_amountAt_records, virtualSize_amountAt_records]

theorem mem_placesOf : (p, size) ∈ placesOf s.sections ↔ s.Holds size p := by
  unfold placesOf
  cases p with
  | binarySection name =>
    simp [Snapshot.Holds, eq_comm]
  | coffGroup name =>
    simp [Snapshot.Holds]

theorem checkCoverage_eq_ok {records : List ContributionRecord}
    : checkCoverage kind s.sections records = .ok ()
        ↔ (∀ p, sizeIn p records < wordLimit ∧ virtualSizeIn p records < wordLimit)
          ∧ ∀ p size, s.Holds size p → sizeIn p records ≤ size := by
  unfold checkCoverage
  simp only [← fits_amountAt_records, ← Contributions.post_empty_eq_ok_iff,
    Contributions.ofRecords_eq_post]
  cases hpost : Contributions.empty.post (records.flatMap ContributionRecord.postings) with
  | error q => simp
  | ok totals =>
    simp only [Except.ok.injEq, exists_eq', true_and]
    rw [Except.forM_eq_ok]
    simp only [Prod.forall, mem_placesOf, Contributions.extentAt_post_empty _ hpost,
      size_amountAt_records]
    apply forall₃_congr
    intro p size _
    by_cases hle : sizeIn p records ≤ size <;> simp [hle]

theorem checkCoverage_eq_error
    (h : checkCoverage kind s.sections (s.recordsOf kind) = .error e)
    : e.TrueOf s := by
  unfold checkCoverage at h
  rw [Contributions.ofRecords_eq_post] at h
  cases hpost : Contributions.empty.post
      ((s.recordsOf kind).flatMap ContributionRecord.postings) with
  | error q =>
    rw [hpost] at h
    cases h
    have hnot := Contributions.not_fits_of_post_empty_eq_error hpost
    rw [fits_amountAt_records] at hnot
    show _ ∨ _
    omega
  | ok totals =>
    rw [hpost] at h
    have ⟨(p, size), hmem, hfail⟩ := Except.exists_of_forM_eq_error h
    simp only [Contributions.extentAt_post_empty _ hpost, size_amountAt_records] at hfail
    split at hfail
    . cases hfail
    . next hlt =>
      cases hfail
      exact ⟨mem_placesOf.1 hmem, rfl, Nat.lt_of_not_le hlt⟩

theorem exists_holds_of_places {r : ContributionRecord} (h : s.Places r) (hp : r.liesIn p)
    : ∃ size, s.Holds size p := by
  have ⟨sec, hsec, hname, g, hg, hgroup⟩ := h
  cases p with
  | binarySection name =>
    simp only [ContributionRecord.liesIn, decide_eq_true_eq] at hp
    exact ⟨sec.size, sec, hsec, hname.trans hp, rfl⟩
  | coffGroup name =>
    simp only [ContributionRecord.liesIn, decide_eq_true_eq] at hp
    exact ⟨g.size, sec, hsec, g, hg, hgroup.trans hp, rfl⟩

theorem lt_of_holds (hs : s.InRange) (h : s.Holds size p) : size < wordLimit := by
  cases p with
  | binarySection name =>
    have ⟨sec, hsec, _, hsize⟩ := h
    have := (hs.sections sec hsec).1
    omega
  | coffGroup name =>
    have ⟨sec, hsec, g, hg, _, hsize⟩ := h
    have := ((hs.sections sec hsec).2.2 g hg).1
    omega

theorem checkCoverage_eq_ok_of_placed (hs : s.InRange) {records : List ContributionRecord}
    (hplaced : ∀ r ∈ records, s.Places r)
    : checkCoverage kind s.sections records = .ok ()
        ↔ ∀ p size, s.Holds size p →
          sizeIn p records ≤ size ∧ virtualSizeIn p records < wordLimit := by
  -- Places that are not recorded get nothing, and recorded sizes are below the limit.
  rw [checkCoverage_eq_ok]
  constructor
  . intro ⟨hfits, hle⟩ p size hholds
    exact ⟨hle p size hholds, (hfits p).2⟩
  . intro h
    refine ⟨?_, fun p size hholds => (h p size hholds).1⟩
    intro p
    by_cases hnone : ∃ r ∈ records, r.liesIn p
    . have ⟨r, hr, hlies⟩ := hnone
      have ⟨size, hholds⟩ := exists_holds_of_places (hplaced r hr) hlies
      have hlt := lt_of_holds hs hholds
      have := h p size hholds
      omega
    . have hnil : records.filter (·.liesIn p) = [] := by
        rw [List.filter_eq_nil_iff]
        intro r hr hlies
        exact hnone ⟨r, hr, hlies⟩
      unfold sizeIn virtualSizeIn
      rw [hnil]
      decide

end Coverage

section Totals

variable {s : Snapshot} {sum : SizeSum} {sizes : List Nat} {e : SnapshotError}
  {functions : List TemplatedFunction}

theorem checkTotal_eq_ok : checkTotal sum sizes = .ok () ↔ sizes.sum < wordLimit := by
  unfold checkTotal
  cases h : Quantity.total? sizes with
  | none =>
    rw [Quantity.total?_eq_none] at h
    simp [h]
  | some total =>
    rw [Quantity.total?_eq_some] at h
    simp [h.1]

theorem checkTotal_eq_error (h : checkTotal sum sizes = .error e)
    : e = .sizeOverflow sum ∧ wordLimit ≤ sizes.sum := by
  unfold checkTotal at h
  cases htotal : Quantity.total? sizes with
  | none =>
    rw [htotal] at h
    cases h
    exact ⟨rfl, Quantity.total?_eq_none.1 htotal⟩
  | some total =>
    rw [htotal] at h
    cases h

theorem checkCodeRanges_eq_ok
    : checkCodeRanges functions = .ok () ↔ ∀ f ∈ functions, f.rva + f.size < wordLimit := by
  unfold checkCodeRanges
  cases h : functions.find? fun f => (Quantity.add? f.rva f.size).isNone with
  | none =>
    simp only [List.find?_eq_none, Option.isNone_iff_eq_none, Quantity.add?_eq_none,
      not_le] at h
    simpa using h
  | some f =>
    have hmem := List.mem_of_find?_eq_some h
    have hf := List.find?_some h
    simp only [Option.isNone_iff_eq_none, Quantity.add?_eq_none] at hf
    simp only [reduceCtorEq, false_iff, not_forall, not_lt]
    exact ⟨f, hmem, hf⟩

theorem checkCodeRanges_eq_error (h : checkCodeRanges functions = .error e)
    : ∃ f ∈ functions, e = .sizeOverflow (.codeRange f.name) ∧ wordLimit ≤ f.rva + f.size := by
  unfold checkCodeRanges at h
  cases hfind : functions.find? fun f => (Quantity.add? f.rva f.size).isNone with
  | none =>
    rw [hfind] at h
    cases h
  | some f =>
    rw [hfind] at h
    cases h
    have hf := List.find?_some hfind
    simp only [Option.isNone_iff_eq_none, Quantity.add?_eq_none] at hf
    exact ⟨f, List.mem_of_find?_eq_some hfind, rfl, hf⟩

end Totals

end Footprint
