import Footprint.Proofs.Decimal.Shortest
import Footprint.Proofs.Json.Reader
import Footprint.Proofs.Report.Document

namespace Footprint

section Writing

open Json

@[simp]
theorem isWritable_text (s : String) : (text s).IsWritable :=
  .text s

@[simp]
theorem isWritable_bool (b : Bool) : (Json.bool b).IsWritable :=
  .bool b

@[simp]
theorem isWritable_natural (n : Nat) : (natural n).IsWritable :=
  .number trivial

@[simp]
theorem isWritable_integer (i : Int) : (integer i).IsWritable := by
  unfold integer
  split <;> exact .number trivial

@[simp]
theorem isWritable_binary32 (x : Float32) : (binary32 x).IsWritable := by
  unfold binary32
  split
  . next literal h => exact .number (Decimal.isLiteral_shortestText? h)
  . exact .null

@[simp]
theorem isWritable_record {members : List (String × Json)}
    : (record members).IsWritable ↔ ∀ m ∈ members, m.2.IsWritable := by
  constructor
  . intro h m hm
    unfold record at h
    cases h with
    | object _ values => exact values _ (List.mem_map_of_mem hm)
  . intro h
    apply IsWritable.object <;> rw [List.forall_mem_map]
    . exact fun _ _ => rfl
    . exact h

@[simp]
theorem isWritable_list {α : Type} {item : α → Json} (h : ∀ x, (item x).IsWritable) (xs : List α)
    : (list item xs).IsWritable := by
  apply IsWritable.array
  rw [List.forall_mem_map]
  exact fun x _ => h x

@[simp]
theorem isWritable_optional {α : Type} {item : α → Json} (h : ∀ x, (item x).IsWritable)
    (x : Option α)
    : (Json.optional item x).IsWritable := by
  cases x with
  | none => exact .null
  | some x => exact h x

@[simp]
theorem Roster.isWritable_toJson {α : Type} {value : String → α → Json}
    (h : ∀ key a, (value key a).IsWritable) (r : Roster String α)
    : (r.toJson value).IsWritable := by
  rw [Roster.toJson, isWritable_record, List.forall_mem_map]
  exact fun e _ => h e.1 e.2

@[simp]
theorem Extent.isWritable_toJson (name : String) (e : Extent) : (e.toJson name).IsWritable := by
  simp [Extent.toJson]

@[simp]
theorem Contributions.isWritable_toJson (c : Contributions) : c.toJson.IsWritable := by
  simp [Contributions.toJson]

@[simp]
theorem CoffGroup.isWritable_toJson (g : CoffGroup) : g.toJson.IsWritable := by
  simp [CoffGroup.toJson]

@[simp]
theorem BinarySection.isWritable_toJson (s : BinarySection) : s.toJson.IsWritable := by
  simp [BinarySection.toJson]

@[simp]
theorem Lib.isWritable_toJson (l : Lib) : l.toJson.IsWritable := by
  simp [Lib.toJson]

@[simp]
theorem Compiland.isWritable_toJson (c : Compiland) : c.toJson.IsWritable := by
  simp [Compiland.toJson]

@[simp]
theorem SourceFile.isWritable_toJson (f : SourceFile) : f.toJson.IsWritable := by
  simp [SourceFile.toJson]

@[simp]
theorem Symbol.isWritable_toJson (s : Symbol) : s.toJson.IsWritable := by
  simp [Symbol.toJson]

@[simp]
theorem StaticData.isWritable_toJson (d : StaticData) : d.toJson.IsWritable := by
  simp [StaticData.toJson]

@[simp]
theorem DuplicateData.isWritable_toJson (d : DuplicateData) : d.toJson.IsWritable := by
  simp [DuplicateData.toJson]

@[simp]
theorem TemplatedFunction.isWritable_toJson (f : TemplatedFunction) : f.toJson.IsWritable := by
  simp [TemplatedFunction.toJson]

@[simp]
theorem Foldability.isWritable_toJson (f : Foldability) : f.toJson.IsWritable := by
  simp [Foldability.toJson]

@[simp]
theorem WastedOverride.isWritable_toJson (w : WastedOverride) : w.toJson.IsWritable := by
  simp [WastedOverride.toJson]

@[simp]
theorem WastefulVirtual.isWritable_toJson (v : WastefulVirtual) : v.toJson.IsWritable := by
  simp [WastefulVirtual.toJson]

section Diffs

variable {α : Type} {value : α → Json}

theorem Diff.isWritable_members [Sized α] (h : ∀ a, (value a).IsWritable) (name : String)
    (d : Diff α)
    : ∀ m ∈ d.members name value, m.2.IsWritable := by
  simp [Diff.members, h]

@[simp]
theorem Diff.isWritable_toJson [Entity α] (h : ∀ a, (value a).IsWritable) (d : Diff α)
    : (d.toJson value).IsWritable :=
  isWritable_record.2 (Diff.isWritable_members h d.name d)

@[simp]
theorem Diff.isWritable_extentToJson (name : String) (d : Diff Extent)
    : (d.extentToJson name).IsWritable :=
  isWritable_record.2 (Diff.isWritable_members (Extent.isWritable_toJson name) name d)

@[simp]
theorem ContributionDiffs.isWritable_toJson (d : ContributionDiffs) : d.toJson.IsWritable := by
  simp [ContributionDiffs.toJson]

@[simp]
theorem ContainerDiff.isWritable_toJson [Container α] (h : ∀ a, (value a).IsWritable)
    (d : ContainerDiff α)
    : (d.toJson value).IsWritable := by
  rw [ContainerDiff.toJson, isWritable_record, List.forall_mem_append]
  exact ⟨Diff.isWritable_members h d.name d.diff, by simp⟩

@[simp]
theorem SectionDiff.isWritable_toJson (d : SectionDiff) : d.toJson.IsWritable := by
  rw [SectionDiff.toJson, isWritable_record, List.forall_mem_append]
  exact ⟨Diff.isWritable_members BinarySection.isWritable_toJson d.name d.diff, by simp⟩

@[simp]
theorem DuplicateData.isWritable_diffToJson (d : Diff DuplicateData)
    : (diffToJson d).IsWritable := by
  simp [diffToJson]

@[simp]
theorem Foldability.isWritable_diffToJson (d : Diff Foldability) : (diffToJson d).IsWritable := by
  simp [diffToJson]

end Diffs

@[simp]
theorem HierarchyChange.isWritable_toJson (c : HierarchyChange) : c.toJson.IsWritable := by
  simp [HierarchyChange.toJson]

@[simp]
theorem OverrideChange.isWritable_toJson (c : OverrideChange) : c.toJson.IsWritable := by
  simp [OverrideChange.toJson]

@[simp]
theorem WastefulVirtualDiff.isWritable_toJson (d : WastefulVirtualDiff) : d.toJson.IsWritable := by
  simp [WastefulVirtualDiff.toJson]

@[simp]
theorem Analysis.isWritable_toJson (a : Analysis) : a.toJson.IsWritable := by
  simp [Analysis.toJson]

@[simp]
theorem Comparison.isWritable_toJson (c : Comparison) : c.toJson.IsWritable := by
  simp [Comparison.toJson]

@[simp]
theorem ChangeTotals.isWritable_toJson (t : ChangeTotals) : t.toJson.IsWritable := by
  simp [ChangeTotals.toJson]

@[simp]
theorem WasteTotals.isWritable_toJson (t : WasteTotals) : t.toJson.IsWritable := by
  simp [WasteTotals.toJson]

@[simp]
theorem WasteDiffTotals.isWritable_toJson (t : WasteDiffTotals) : t.toJson.IsWritable := by
  simp [WasteDiffTotals.toJson]

@[simp]
theorem SingleTotals.isWritable_toJson (t : SingleTotals) : t.toJson.IsWritable := by
  simp [SingleTotals.toJson]

@[simp]
theorem DiffTotals.isWritable_toJson (t : DiffTotals) : t.toJson.IsWritable := by
  simp [DiffTotals.toJson]

theorem Report.isWritable_toJson (r : Report) : r.toJson.IsWritable := by
  cases r <;> simp [Report.toJson]

end Writing

end Footprint
