import Footprint.Proofs.Aggregation
import Mathlib.Data.List.Flatten

/-!
This module contains the virtual sizes of containers. What is contributed to one place in memory is
checked against the limit of a byte count, but not what is contributed to all sections together, so
the virtual size of a container is the sum of its records unless this sum reaches the limit.
-/

namespace Footprint

variable {s : Snapshot} {a : Analysis}

def inMemory (records : List ContributionRecord) : Nat :=
  (records.map (·.virtualSize)).sum

/--
Whether the virtual size of every container of an analysis is some measure of what its records take
up in memory. The records of a lib are those of its compilands.
-/
structure Snapshot.VirtualSizes (s : Snapshot) (a : Analysis) (measure : Nat → Nat) : Prop where
  eachCompiland : List.Forall₂
    (fun r c => c.name = r.name ∧ Sized.virtualSize c = measure (inMemory r.contributions))
    s.compilands a.compilands
  eachSourceFile : List.Forall₂
    (fun r f => f.name = r.name ∧ Sized.virtualSize f = measure (inMemory r.contributions))
    s.sourceFiles a.sourceFiles
  eachLib : ∀ l ∈ a.libs, Sized.virtualSize l = measure (inMemory (s.recordsOfLib l.name))

def Snapshot.WithinMemory (s : Snapshot) : Prop :=
  ∀ kind, ∀ sec ∈ s.sections,
    virtualSizeIn (.binarySection sec.name) (s.recordsOf kind) ≤ sec.virtualSize

section Saturation

variable {records : List ContributionRecord} {c : Contributions}

theorem inMemory_eq (records : List ContributionRecord)
    : inMemory records = (records.map ContributionRecord.extent).sum.virtualSize := by
  rw [Extent.virtualSize_sum, List.map_map]
  rfl

theorem Contributions.virtualSize_eq_min (c : Contributions)
    : c.virtualSize = min c.sections.values.sum.virtualSize (wordLimit - 1) := by
  unfold virtualSize
  rw [Quantity.saturatingTotal_eq_min, Extent.virtualSize_sum]

theorem Contributions.virtualSize_ofRecords (h : ofRecords records = .ok c)
    : c.virtualSize = min (inMemory records) (wordLimit - 1) := by
  rw [virtualSize_eq_min, sum_sections_ofRecords h, inMemory_eq]

theorem virtualSizes_saturate (h : s.check = .ok ()) {options : AnalysisOptions}
    {similarity : Similarity} (ha : (s.analyze options similarity).result = .ok a)
    : s.VirtualSizes a (min · (wordLimit - 1)) := by
  have ⟨hcompilands, _, hsourceFiles⟩ := containers_of_result_analyze ha
  have ⟨hlibs, _⟩ := conserves_of_result_analyze h ha
  constructor
  case eachCompiland =>
    apply (forall₂_compilands hcompilands).imp
    intro r c hc
    exact ⟨hc.1, Contributions.virtualSize_ofRecords hc.2.2⟩
  case eachSourceFile =>
    apply (forall₂_sourceFiles hsourceFiles).imp
    intro r f hf
    exact ⟨hf.1, Contributions.virtualSize_ofRecords hf.2⟩
  case eachLib =>
    intro l hl
    exact Contributions.virtualSize_ofRecords ((aggregates hcompilands hlibs).eachLib l hl)

end Saturation

section Memory

variable {records : List ContributionRecord}

theorem inMemory_le_of_sublist {others : List ContributionRecord} (h : records.Sublist others)
    : inMemory records ≤ inMemory others := by
  unfold inMemory
  exact (h.map _).sum_le_sum fun _ _ => Nat.zero_le _

theorem inMemory_recordsOf_lt (h : s.check = .ok ()) (hmemory : s.WithinMemory)
    (kind : ContainerKind)
    : inMemory (s.recordsOf kind) < wordLimit := by
  have hlt := (Snapshot.check_eq_ok.1 h).2.2.2.2.1.2.1
  have hle := sum_recordsOf_le h kind (hmemory kind)
  exact lt_of_le_of_lt hle hlt

theorem sublist_recordsOf_compiland {r : CompilandRecord} (hr : r ∈ s.compilands)
    : r.contributions.Sublist (s.recordsOf .compiland) := by
  rw [recordsOf_compiland]
  exact List.sublist_flatten_of_mem (List.mem_map_of_mem hr)

theorem sublist_recordsOf_sourceFile {r : SourceFileRecord} (hr : r ∈ s.sourceFiles)
    : r.contributions.Sublist (s.recordsOf .sourceFile) := by
  rw [recordsOf_sourceFile]
  exact List.sublist_flatten_of_mem (List.mem_map_of_mem hr)

theorem Snapshot.VirtualSizes.exact
    (h : s.VirtualSizes a (min · (wordLimit - 1)))
    (hlt : ∀ kind, inMemory (s.recordsOf kind) < wordLimit)
    : s.VirtualSizes a id := by
  -- No container takes up more than all containers of its kind together.
  have hexact {records : List ContributionRecord} {kind : ContainerKind}
      (hsublist : records.Sublist (s.recordsOf kind))
      : min (inMemory records) (wordLimit - 1) = inMemory records := by
    have hle := inMemory_le_of_sublist hsublist
    have := hlt kind
    omega
  constructor
  case eachCompiland =>
    apply (forall₂_of_mem h.eachCompiland).imp
    intro r c ⟨hr, hname, hsize⟩
    exact ⟨hname, hsize.trans (hexact (sublist_recordsOf_compiland hr))⟩
  case eachSourceFile =>
    apply (forall₂_of_mem h.eachSourceFile).imp
    intro r f ⟨hr, hname, hsize⟩
    exact ⟨hname, hsize.trans (hexact (sublist_recordsOf_sourceFile hr))⟩
  case eachLib =>
    intro l hl
    exact (h.eachLib l hl).trans (hexact (sublist_recordsOfLib s l.name))

end Memory

theorem Snapshot.virtual_sizes_within_memory {options : AnalysisOptions} {similarity : Similarity}
    {m : Monitor} (h : s.check = .ok ())
    (ha : ((s.analyze options similarity).run m).1 = .ok a)
    : s.VirtualSizes a (min · (wordLimit - 1)) ∧ (s.WithinMemory → s.VirtualSizes a id) := by
  have hsaturate := virtualSizes_saturate h (Pass.result_of_run_eq_ok ha)
  refine ⟨hsaturate, ?_⟩
  intro hmemory
  exact hsaturate.exact (inMemory_recordsOf_lt h hmemory)

def claimedMemory (held claimed : Nat) : Snapshot where
  sections := [
    { name := ".text", virtualSize := held, coffGroups := [{ name := ".text$a" }] },
    { name := ".bss", virtualSize := held, coffGroups := [{ name := ".bss" }] }]
  compilands := [{ name := "a.obj", lib := "x.lib", contributions := claims }]
  sourceFiles := [{ name := "a.cpp", contributions := claims }]
where
  claims : List ContributionRecord := [
    { sectionName := ".text", coffGroup := ".text$a", virtualSize := claimed },
    { sectionName := ".bss", coffGroup := ".bss", virtualSize := claimed }]

theorem Snapshot.virtual_sizes_within_memory_claimedMemory
    : ∃ a, (((claimedMemory 64 48).analyze {} byteSimilarity).run (.start none)).1 = .ok a
        ∧ (claimedMemory 64 48).VirtualSizes a id := by
  obtain ⟨a, ha⟩ : ∃ a, (((claimedMemory 64 48).analyze {} byteSimilarity).run
      (.start none)).1 = .ok a := ⟨_, rfl⟩
  refine ⟨a, ha, ?_⟩
  apply (virtual_sizes_within_memory rfl ha).2
  intro kind
  cases kind <;> decide

theorem Snapshot.virtual_sizes_claimedMemory
    : (claimedMemory 64 (wordLimit / 2)).check = .ok ()
      ∧ ∃ a, (((claimedMemory 64 (wordLimit / 2)).analyze {} byteSimilarity).run
          (.start none)).1 = .ok a
        ∧ a.libs.map Sized.virtualSize = [wordLimit - 1]
        ∧ a.compilands.map Sized.virtualSize = [wordLimit - 1]
        ∧ a.sourceFiles.map Sized.virtualSize = [wordLimit - 1]
        ∧ inMemory (claimedMemory.claims (wordLimit / 2)) = wordLimit
        ∧ ¬(claimedMemory 64 (wordLimit / 2)).VirtualSizes a id := by
  refine ⟨rfl, _, rfl, rfl, rfl, rfl, rfl, ?_⟩
  -- Two sections of half the memory each are one byte more than a size can be.
  intro h
  obtain ⟨⟨_, hsize⟩, _⟩ := List.forall₂_cons.1 h.eachCompiland
  revert hsize
  decide

end Footprint
