import Footprint.Proofs.Analysis
import Footprint.Proofs.Snapshot.Check
import Mathlib.Algebra.Order.Group.Nat

/-!
This module contains the conservation of bytes: the compilands, libs and source files of a snapshot
that has passed its checks can always be built, and together they account for exactly the bytes of
the records, container by container and place by place.
-/

namespace Footprint

variable {s : Snapshot} {p : Place} {size : Nat}

section Accepted

theorem fits_recordsOf (h : s.check = .ok ()) (kind : ContainerKind) (p : Place)
    : (amountAt p ((s.recordsOf kind).flatMap (·.postings))).Fits := by
  have hcovered := (Snapshot.check_eq_ok.1 h).2.2.2.1 kind
  exact fits_amountAt_records.2 ((checkCoverage_eq_ok.1 hcovered).1 p)

theorem sizeIn_recordsOf_le (h : s.check = .ok ()) (kind : ContainerKind)
    (hholds : s.Holds size p)
    : sizeIn p (s.recordsOf kind) ≤ size := by
  have hcovered := (Snapshot.check_eq_ok.1 h).2.2.2.1 kind
  exact (checkCoverage_eq_ok.1 hcovered).2 p size hholds

theorem sum_recordsOf_le (h : s.check = .ok ()) (kind : ContainerKind)
    {ofRecord : ContributionRecord → Nat} {ofSection : SectionRecord → Nat}
    (hle : ∀ sec ∈ s.sections,
      (((s.recordsOf kind).filter (·.sectionName = sec.name)).map ofRecord).sum ≤ ofSection sec)
    : ((s.recordsOf kind).map ofRecord).sum ≤ (s.sections.map ofSection).sum := by
  -- Every record lies in one section, so the records are split up by their sections.
  have ⟨_, hnames, hplaces, _⟩ := Snapshot.check_eq_ok.1 h
  have hplaced := Snapshot.records_of_contributors hplaces kind
  have hsections : ∀ r ∈ s.recordsOf kind, r.sectionName ∈ s.namesOf .binarySection := by
    intro r hr
    have ⟨sec, hsec, hname, _⟩ := hplaced r hr
    exact List.mem_map.2 ⟨sec, hsec, hname⟩
  have hsplit := sum_map_sum_filter ContributionRecord.sectionName ofRecord
    (hnames .binarySection) hsections
  rw [← hsplit]
  unfold Snapshot.namesOf
  rw [List.map_map]
  exact List.sum_le_sum hle

theorem sum_size_recordsOf_le (h : s.check = .ok ()) (kind : ContainerKind)
    : ((s.recordsOf kind).map (·.size)).sum ≤ (s.sections.map (·.size)).sum := by
  apply sum_recordsOf_le h
  intro sec hsec
  have hholds : s.Holds sec.size (.binarySection sec.name) := ⟨sec, hsec, rfl, rfl⟩
  exact sizeIn_recordsOf_le h kind hholds

theorem sum_size_recordsOf_lt (h : s.check = .ok ()) (kind : ContainerKind)
    : ((s.recordsOf kind).map (·.size)).sum < wordLimit := by
  have := (Snapshot.check_eq_ok.1 h).2.2.2.2.1.1
  have := sum_size_recordsOf_le h kind
  omega

end Accepted

section Building

variable {compilands : List Compiland} {libs : List Lib} {sourceFiles : List SourceFile}

theorem recordsOf_compiland (s : Snapshot)
    : s.recordsOf .compiland = (s.compilands.map (·.contributions)).flatten := by
  apply List.flatMap_def

theorem recordsOf_sourceFile (s : Snapshot)
    : s.recordsOf .sourceFile = (s.sourceFiles.map (·.contributions)).flatten := by
  apply List.flatMap_def

theorem exists_buildCompilands (h : s.check = .ok ())
    : ∃ compilands, s.buildCompilands.result = .ok compilands := by
  rw [Snapshot.result_buildCompilands]
  rw [Except.exists_mapM_eq_ok]
  intro r hr
  have hfits := fits_recordsOf h .compiland
  rw [recordsOf_compiland] at hfits
  have ⟨c, hc⟩ := Contributions.exists_ofRecords_of_mem hfits (List.mem_map_of_mem hr)
  exact ⟨⟨r.name, r.lib, c⟩, Compiland.ofRecord_eq_ok.2 ⟨rfl, rfl, hc⟩⟩

theorem exists_buildSourceFiles (h : s.check = .ok ())
    : ∃ sourceFiles, s.buildSourceFiles.result = .ok sourceFiles := by
  rw [Snapshot.result_buildSourceFiles]
  rw [Except.exists_mapM_eq_ok]
  intro r hr
  have hfits := fits_recordsOf h .sourceFile
  rw [recordsOf_sourceFile] at hfits
  have ⟨c, hc⟩ := Contributions.exists_ofRecords_of_mem hfits (List.mem_map_of_mem hr)
  exact ⟨⟨r.name, c⟩, SourceFile.ofRecord_eq_ok.2 ⟨rfl, hc⟩⟩

theorem forall₂_compilands (h : s.buildCompilands.result = .ok compilands)
    : List.Forall₂ (fun r c => c.name = r.name ∧ c.lib = r.lib
        ∧ Contributions.ofRecords r.contributions = .ok c.contributions)
      s.compilands compilands := by
  rw [Snapshot.result_buildCompilands, Except.mapM_eq_ok] at h
  exact h.imp fun r c hc => Compiland.ofRecord_eq_ok.1 hc

theorem forall₂_sourceFiles (h : s.buildSourceFiles.result = .ok sourceFiles)
    : List.Forall₂ (fun r f => f.name = r.name
        ∧ Contributions.ofRecords r.contributions = .ok f.contributions)
      s.sourceFiles sourceFiles := by
  rw [Snapshot.result_buildSourceFiles, Except.mapM_eq_ok] at h
  exact h.imp fun r f hf => SourceFile.ofRecord_eq_ok.1 hf

theorem sum_extentAt_of_forall₂ {α : Type} [Container α]
    {recordLists : List (List ContributionRecord)} {containers : List α}
    (h : List.Forall₂ (fun records c => Contributions.ofRecords records
      = .ok (Container.contributions c)) recordLists containers) (p : Place)
    : (containers.map fun c => (Container.contributions c).extentAt p).sum
        = amountAt p (recordLists.flatten.flatMap (·.postings)) := by
  have hrecords : List.Forall₂ (fun records c => Contributions.ofRecords records = .ok c)
      recordLists (containers.map Container.contributions) := List.forall₂_map_right_iff.2 h
  unfold amountAt
  rw [← Contributions.sum_amountIn_of_forall₂ hrecords, List.map_map]
  congr 1
  apply List.map_congr_left
  intro c _
  exact (Contributions.amountAt_postings p _).symm

theorem sum_extentAt_compilands (h : s.buildCompilands.result = .ok compilands) (p : Place)
    : (compilands.map (·.contributions.extentAt p)).sum
        = amountAt p ((s.recordsOf .compiland).flatMap (·.postings)) := by
  rw [recordsOf_compiland]
  apply sum_extentAt_of_forall₂
  rw [List.forall₂_map_left_iff]
  exact (forall₂_compilands h).imp fun r c hc => hc.2.2

theorem sum_extentAt_sourceFiles (h : s.buildSourceFiles.result = .ok sourceFiles) (p : Place)
    : (sourceFiles.map (·.contributions.extentAt p)).sum
        = amountAt p ((s.recordsOf .sourceFile).flatMap (·.postings)) := by
  rw [recordsOf_sourceFile]
  apply sum_extentAt_of_forall₂
  rw [List.forall₂_map_left_iff]
  exact (forall₂_sourceFiles h).imp fun r f hf => hf.2

theorem exists_buildLibs (h : s.check = .ok ())
    (hbuild : s.buildCompilands.result = .ok compilands)
    : ∃ libs, (buildLibs compilands).result = .ok libs ∧ LibsOf libs compilands := by
  apply exists_libsOf
  intro p
  rw [sum_extentAt_compilands hbuild]
  exact fits_recordsOf h .compiland p

theorem sum_extentAt_libs (h : LibsOf libs compilands) (p : Place)
    : (libs.map (·.contributions.extentAt p)).sum
        = (compilands.map (·.contributions.extentAt p)).sum := by
  -- Every compiland is in one lib, so the compilands are split up by their libs.
  rw [← sum_firstSeen (·.lib) (·.contributions.extentAt p) compilands, ← h.names, List.map_map]
  congr 1
  apply List.map_congr_left
  intro l hl
  rw [Contributions.extentAt_mergeAll p (h.gathers l hl).contributions, List.map_map]
  rfl

end Building

section Fit

variable {α : Type} [Container α] {kind : ContainerKind} {containers : List α}

theorem sectionPlaces_ofRecord (sections : List SectionRecord)
    : sectionPlaces (sections.map BinarySection.ofRecord) = placesOf sections := by
  unfold sectionPlaces placesOf
  rw [List.flatMap_map]
  simp only [BinarySection.ofRecord, List.map_map]
  rfl

theorem checkFit_eq_ok (h : s.check = .ok ())
    (hsum : ∀ p, (containers.map fun c => (Container.contributions c).extentAt p).sum
      = amountAt p ((s.recordsOf kind).flatMap (·.postings)))
    : checkFit kind (s.sections.map BinarySection.ofRecord) containers = .ok () := by
  have ⟨totals, htotals⟩ : ∃ totals,
      Contributions.mergeAll (containers.map Container.contributions) = .ok totals := by
    apply Contributions.exists_mergeAll
    intro p
    rw [List.map_map]
    show (List.sum (containers.map fun c => (Container.contributions c).extentAt p)).Fits
    rw [hsum p]
    exact fits_recordsOf h kind p
  unfold checkFit
  rw [htotals]
  show (sectionPlaces _).forM _ = _
  rw [Except.forM_eq_ok, sectionPlaces_ofRecord]
  intro ⟨p, size⟩ hmem
  have hle := sizeIn_recordsOf_le h kind (mem_placesOf.1 hmem)
  have hextent : (totals.extentAt p).size = sizeIn p (s.recordsOf kind) := by
    rw [Contributions.extentAt_mergeAll p htotals, List.map_map, ← size_amountAt_records]
    exact congrArg Extent.size (hsum p)
  dsimp only
  rw [hextent, if_pos hle]

end Fit

section Accounts

variable {α : Type} [Container α] {c : α} {records : List ContributionRecord}

/--
Whether the size of a container is, without a limit, the sum of its records, of what it contributes
to the sections and of what it contributes to the COFF groups.
-/
structure AccountsFor (records : List ContributionRecord) (c : α) : Prop where
  records : Sized.size c = (records.map (·.size)).sum
  sections : Sized.size c = ((Container.contributions c).sections.values.map (·.size)).sum
  coffGroups : Sized.size c = ((Container.contributions c).coffGroups.values.map (·.size)).sum

theorem accountsFor (h : Contributions.ofRecords records = .ok (Container.contributions c))
    (hlt : (records.map (·.size)).sum < wordLimit)
    : AccountsFor records c := by
  have hrecords : (records.map ContributionRecord.extent).sum.size
      = (records.map (·.size)).sum := by
    rw [Extent.size_sum, List.map_map]
    rfl
  have hsections := congrArg Extent.size (Contributions.sum_sections_ofRecords h)
  have hgroups := congrArg Extent.size (Contributions.sum_coffGroups_ofRecords h)
  rw [hrecords] at hsections hgroups
  have hsize : Sized.size c = (records.map (·.size)).sum := by
    rw [← hsections]
    apply Contributions.size_eq_sum
    omega
  rw [Extent.size_sum] at hsections hgroups
  exact ⟨hsize, hsize.trans hsections.symm, hsize.trans hgroups.symm⟩

theorem accountsFor_of_mem {recordLists : List (List ContributionRecord)}
    (h : Contributions.ofRecords records = .ok (Container.contributions c))
    (hlt : (recordLists.flatten.map (·.size)).sum < wordLimit) (hmem : records ∈ recordLists)
    : AccountsFor records c := by
  -- The records of one container are at most as large as all records together.
  obtain ⟨before, after, rfl⟩ := List.append_of_mem hmem
  simp only [List.flatten_append, List.flatten_cons, List.map_append, List.sum_append] at hlt
  apply accountsFor h
  omega

omit [Container α] in
theorem forall₂_of_mem {ρ : Type} {R : ρ → α → Prop} {xs : List ρ} {ys : List α}
    (h : List.Forall₂ R xs ys)
    : List.Forall₂ (fun x y => x ∈ xs ∧ R x y) xs ys := by
  exact (List.forall₂_and_left _ _).2 ⟨fun _ hx => hx, h⟩

end Accounts

structure Snapshot.Conserves (s : Snapshot) (compilands : List Compiland) (libs : List Lib)
    (sourceFiles : List SourceFile) : Prop where
  eachCompiland : List.Forall₂
    (fun r c => c.name = r.name ∧ c.lib = r.lib ∧ AccountsFor r.contributions c)
    s.compilands compilands
  eachSourceFile : List.Forall₂
    (fun r f => f.name = r.name ∧ AccountsFor r.contributions f) s.sourceFiles sourceFiles
  libNames : (libs.map (·.name)).Nodup
  eachLib : ∀ l ∈ libs,
    Sized.size l = ((compilands.filter (·.lib = l.name)).map Sized.size).sum
  members : ∀ c ∈ compilands, ∃ l ∈ libs, l.name = c.lib
    ∧ ∀ k ∈ libs, c.name ∈ k.compilands ↔ k = l
  libPlaces : ∀ p, (libs.map fun l => (l.contributions.extentAt p).size).sum
    = (compilands.map fun c => (c.contributions.extentAt p).size).sum
  compilandPlaces : ∀ p, (compilands.map fun c => (c.contributions.extentAt p).size).sum
    = sizeIn p (s.recordsOf .compiland)
  bounded : ∀ p size, s.Holds size p → sizeIn p (s.recordsOf .compiland) ≤ size

section Conserves

variable {compilands : List Compiland} {libs : List Lib} {sourceFiles : List SourceFile}

theorem forall₂_accountsFor_compilands (h : s.check = .ok ())
    (hbuild : s.buildCompilands.result = .ok compilands)
    : List.Forall₂ (fun r c => c.name = r.name ∧ c.lib = r.lib ∧ AccountsFor r.contributions c)
        s.compilands compilands := by
  have hlt := sum_size_recordsOf_lt h .compiland
  rw [recordsOf_compiland] at hlt
  apply (forall₂_of_mem (forall₂_compilands hbuild)).imp
  intro r c ⟨hr, hname, hlib, hc⟩
  exact ⟨hname, hlib, accountsFor_of_mem hc hlt (List.mem_map_of_mem hr)⟩

theorem forall₂_accountsFor_sourceFiles (h : s.check = .ok ())
    (hbuild : s.buildSourceFiles.result = .ok sourceFiles)
    : List.Forall₂ (fun r f => f.name = r.name ∧ AccountsFor r.contributions f)
        s.sourceFiles sourceFiles := by
  have hlt := sum_size_recordsOf_lt h .sourceFile
  rw [recordsOf_sourceFile] at hlt
  apply (forall₂_of_mem (forall₂_sourceFiles hbuild)).imp
  intro r f ⟨hr, hname, hf⟩
  exact ⟨hname, accountsFor_of_mem hf hlt (List.mem_map_of_mem hr)⟩

theorem map_eq_map_of_forall₂ {ρ α β : Type} {f : ρ → β} {g : α → β} {xs : List ρ} {ys : List α}
    (h : List.Forall₂ (fun x y => g y = f x) xs ys)
    : ys.map g = xs.map f := by
  rw [← List.forall₂_eq_eq_eq, List.forall₂_map_left_iff, List.forall₂_map_right_iff]
  exact h.flip

theorem names_compilands (hbuild : s.buildCompilands.result = .ok compilands)
    : compilands.map (·.name) = s.compilands.map (·.name) := by
  apply map_eq_map_of_forall₂
  exact (forall₂_compilands hbuild).imp fun r c hc => hc.1

theorem names_sourceFiles (hbuild : s.buildSourceFiles.result = .ok sourceFiles)
    : sourceFiles.map (·.name) = s.sourceFiles.map (·.name) := by
  apply map_eq_map_of_forall₂
  exact (forall₂_sourceFiles hbuild).imp fun r f hf => hf.1

theorem sum_sections_compilands (hbuild : s.buildCompilands.result = .ok compilands)
    : (compilands.map (·.contributions.sections.values.sum)).sum
        = ((s.recordsOf .compiland).map ContributionRecord.extent).sum := by
  -- Each record is counted once among the sections of its own compiland.
  have hall := forall₂_compilands hbuild
  rw [recordsOf_compiland]
  clear hbuild
  generalize s.compilands = records at hall
  induction hall with
  | nil => rfl
  | cons hc _ ih =>
    rw [List.map_cons, List.sum_cons, ih, List.map_cons, List.flatten_cons, List.map_append,
      List.sum_append, Contributions.sum_sections_ofRecords hc.2.2]

theorem size_sum_sections_compilands_lt (h : s.check = .ok ())
    (hbuild : s.buildCompilands.result = .ok compilands)
    : Extent.size (compilands.map (·.contributions.sections.values.sum)).sum < wordLimit := by
  rw [sum_sections_compilands hbuild, Extent.size_sum, List.map_map]
  exact sum_size_recordsOf_lt h .compiland

theorem size_compiland (h : s.check = .ok ()) (hbuild : s.buildCompilands.result = .ok compilands)
    {c : Compiland} (hc : c ∈ compilands)
    : Sized.size c = c.contributions.sections.values.sum.size := by
  apply Contributions.size_eq_sum
  have hlt := size_sum_sections_compilands_lt h hbuild
  have hle : c.contributions.sections.values.sum
      ≤ (compilands.map (·.contributions.sections.values.sum)).sum := by
    apply List.single_le_sum (fun e _ => zero_le)
    exact List.mem_map_of_mem hc
  exact lt_of_le_of_lt (Extent.le_def.1 hle).1 hlt

theorem size_lib (h : s.check = .ok ()) (hbuild : s.buildCompilands.result = .ok compilands)
    (hlibs : LibsOf libs compilands) {l : Lib} (hl : l ∈ libs)
    : Sized.size l = ((compilands.filter (·.lib = l.name)).map Sized.size).sum := by
  have hlt := size_sum_sections_compilands_lt h hbuild
  have hsum := Contributions.sum_sections_mergeAll (hlibs.gathers l hl).contributions
  rw [List.map_map] at hsum
  have hle : l.contributions.sections.values.sum
      ≤ (compilands.map (·.contributions.sections.values.sum)).sum := by
    rw [hsum]
    apply List.Sublist.sum_le_sum
    . exact (List.filter_sublist).map _
    . simp
  have hsize : Sized.size l = l.contributions.sections.values.sum.size := by
    apply Contributions.size_eq_sum
    exact lt_of_le_of_lt (Extent.le_def.1 hle).1 hlt
  rw [hsize, hsum, Extent.size_sum, List.map_map]
  congr 1
  apply List.map_congr_left
  intro c hc
  exact (size_compiland h hbuild (List.mem_of_mem_filter hc)).symm

theorem nodup_names_libs (hlibs : LibsOf libs compilands) : (libs.map (·.name)).Nodup := by
  rw [hlibs.names]
  apply nodup_firstSeen

theorem mem_lib_iff (hnames : (compilands.map (·.name)).Nodup) (hlibs : LibsOf libs compilands)
    {l : Lib} (hl : l ∈ libs) {c : Compiland} (hc : c ∈ compilands)
    : c.name ∈ l.compilands ↔ l.name = c.lib := by
  -- Two compilands of one name are the same, so the lib of the other one is its lib.
  rw [(hlibs.gathers l hl).compilands, mem_firstSeen, List.mem_map]
  unfold compilandsIn
  simp only [List.mem_filter, decide_eq_true_eq]
  constructor
  . intro ⟨d, ⟨hd, hlib⟩, hname⟩
    have hdc := List.inj_on_of_nodup_map hnames hd hc hname
    rw [← hlib, hdc]
  . intro hlib
    exact ⟨c, ⟨hc, hlib.symm⟩, rfl⟩

theorem exists_lib_of_mem (hnames : (compilands.map (·.name)).Nodup)
    (hlibs : LibsOf libs compilands) {c : Compiland} (hc : c ∈ compilands)
    : ∃ l ∈ libs, l.name = c.lib ∧ ∀ k ∈ libs, c.name ∈ k.compilands ↔ k = l := by
  have hlib : c.lib ∈ libs.map (·.name) := by
    rw [hlibs.names, mem_firstSeen]
    exact List.mem_map_of_mem hc
  have ⟨l, hl, hname⟩ := List.mem_map.1 hlib
  refine ⟨l, hl, hname, ?_⟩
  intro k hk
  rw [mem_lib_iff hnames hlibs hk hc, ← hname]
  constructor
  . exact List.inj_on_of_nodup_map (nodup_names_libs hlibs) hk hl
  . rintro rfl
    rfl

theorem sum_size_extentAt {α : Type} (f : α → Extent) (xs : List α)
    : (xs.map fun x => (f x).size).sum = (xs.map f).sum.size := by
  rw [Extent.size_sum, List.map_map]
  rfl

theorem conserves (h : s.check = .ok ()) (hcompilands : s.buildCompilands.result = .ok compilands)
    (hlibs : LibsOf libs compilands) (hsourceFiles : s.buildSourceFiles.result = .ok sourceFiles)
    : s.Conserves compilands libs sourceFiles := by
  have hnames : (compilands.map (·.name)).Nodup := by
    rw [names_compilands hcompilands]
    exact (Snapshot.check_eq_ok.1 h).2.1 .compiland
  constructor
  case eachCompiland => exact forall₂_accountsFor_compilands h hcompilands
  case eachSourceFile => exact forall₂_accountsFor_sourceFiles h hsourceFiles
  case libNames => exact nodup_names_libs hlibs
  case eachLib => exact fun l hl => size_lib h hcompilands hlibs hl
  case members => exact fun c hc => exists_lib_of_mem hnames hlibs hc
  case libPlaces =>
    intro p
    rw [sum_size_extentAt, sum_size_extentAt, sum_extentAt_libs hlibs]
  case compilandPlaces =>
    intro p
    rw [sum_size_extentAt, sum_extentAt_compilands hcompilands, size_amountAt_records]
  case bounded => exact fun p size hholds => sizeIn_recordsOf_le h .compiland hholds

theorem containers_of_result_analyze {options : AnalysisOptions} {similarity : Similarity}
    {a : Analysis} (h : (s.analyze options similarity).result = .ok a)
    : s.buildCompilands.result = .ok a.compilands
      ∧ (buildLibs a.compilands).result = .ok a.libs
      ∧ s.buildSourceFiles.result = .ok a.sourceFiles := by
  have hmakes := Snapshot.makes_of_result_analyze h
  exact ⟨hmakes.compilands, hmakes.libs, hmakes.sourceFiles⟩

theorem conserves_of_result_analyze {options : AnalysisOptions} {similarity : Similarity}
    {a : Analysis} (h : s.check = .ok ()) (ha : (s.analyze options similarity).result = .ok a)
    : LibsOf a.libs a.compilands ∧ s.Conserves a.compilands a.libs a.sourceFiles := by
  have ⟨hcompilands, hbuild, hsourceFiles⟩ := containers_of_result_analyze ha
  have ⟨libs, hlibs, hlibsOf⟩ := exists_buildLibs h hcompilands
  rw [hbuild] at hlibs
  cases hlibs
  exact ⟨hlibsOf, conserves h hcompilands hlibsOf hsourceFiles⟩

theorem sum_size_of_forall₂ {α : Type} [Container α] {recordLists : List (List ContributionRecord)}
    {containers : List α} (h : List.Forall₂ AccountsFor recordLists containers)
    : (containers.map Sized.size).sum = (recordLists.flatten.map (·.size)).sum := by
  induction h with
  | nil => rfl
  | cons hc _ ih =>
    rw [List.map_cons, List.sum_cons, ih, List.flatten_cons, List.map_append, List.sum_append,
      hc.records]

theorem Snapshot.Conserves.sum_size_compilands (h : s.Conserves compilands libs sourceFiles)
    : (compilands.map Sized.size).sum = ((s.recordsOf .compiland).map (·.size)).sum := by
  rw [recordsOf_compiland]
  apply sum_size_of_forall₂
  rw [List.forall₂_map_left_iff]
  exact h.eachCompiland.imp fun r c hc => hc.2.2

theorem Snapshot.Conserves.sum_size_sourceFiles (h : s.Conserves compilands libs sourceFiles)
    : (sourceFiles.map Sized.size).sum = ((s.recordsOf .sourceFile).map (·.size)).sum := by
  rw [recordsOf_sourceFile]
  apply sum_size_of_forall₂
  rw [List.forall₂_map_left_iff]
  exact h.eachSourceFile.imp fun r f hf => hf.2

theorem Snapshot.bytes_conserved (h : s.check = .ok ())
    : ∃ compilands libs sourceFiles,
        s.buildCompilands.result = .ok compilands
        ∧ (buildLibs compilands).result = .ok libs
        ∧ s.buildSourceFiles.result = .ok sourceFiles
        ∧ s.Conserves compilands libs sourceFiles
        ∧ ∀ options similarity monitor a, ((s.analyze options similarity).run monitor).1 = .ok a
          → a.compilands = compilands ∧ a.libs = libs ∧ a.sourceFiles = sourceFiles := by
  have ⟨compilands, hcompilands⟩ := exists_buildCompilands h
  have ⟨libs, hlibs, hlibsOf⟩ := exists_buildLibs h hcompilands
  have ⟨sourceFiles, hsourceFiles⟩ := exists_buildSourceFiles h
  have hconserves := conserves h hcompilands hlibsOf hsourceFiles
  refine ⟨compilands, libs, sourceFiles, hcompilands, hlibs, hsourceFiles, hconserves, ?_⟩
  intro options similarity monitor a ha
  have ⟨hc, hl, hf⟩ := containers_of_result_analyze (Pass.result_of_run_eq_ok ha)
  rw [hcompilands] at hc
  cases hc
  rw [hlibs] at hl
  rw [hsourceFiles] at hf
  cases hl
  cases hf
  exact ⟨rfl, rfl, rfl⟩

def sharedSections : Snapshot where
  sections := [
    { name := ".text", size := 20, coffGroups := [{ name := ".text$a", size := 20 }] },
    { name := ".data", size := 8, coffGroups := [{ name := ".data", size := 8 }] }]
  compilands := [
    { name := "a.obj", lib := "x.lib", contributions := [
      { sectionName := ".text", coffGroup := ".text$a", size := 4 },
      { sectionName := ".data", coffGroup := ".data", size := 3 },
      { sectionName := ".text", coffGroup := ".text$a", size := 5 }] },
    { name := "b.obj", lib := "y.lib", contributions := [
      { sectionName := ".text", coffGroup := ".text$a", size := 6 }] },
    { name := "c.obj", lib := "x.lib", contributions := [
      { sectionName := ".data", coffGroup := ".data", size := 2 }] }]
  sourceFiles := [
    { name := "a.cpp", contributions := [
      { sectionName := ".text", coffGroup := ".text$a", size := 9 }] }]

theorem bytes_conserved_sharedSections
    : sharedSections.check = .ok ()
      ∧ ∃ compilands libs sourceFiles,
        sharedSections.buildCompilands.result = .ok compilands
        ∧ (buildLibs compilands).result = .ok libs
        ∧ sharedSections.Conserves compilands libs sourceFiles
        ∧ libs.map (fun l => (l.name, l.compilands, Sized.size l))
          = [("x.lib", ["a.obj", "c.obj"], 14), ("y.lib", ["b.obj"], 6)] := by
  have h : sharedSections.check = .ok () := rfl
  obtain ⟨compilands, libs, sourceFiles, hcompilands, hlibs, _, hconserves, _⟩ :=
    Snapshot.bytes_conserved h
  refine ⟨h, compilands, libs, sourceFiles, hcompilands, hlibs, hconserves, ?_⟩
  cases hcompilands
  cases hlibs
  rfl

end Conserves

end Footprint
