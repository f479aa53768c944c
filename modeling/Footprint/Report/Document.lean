import Footprint.Decimal.Shortest
import Footprint.Report
import Footprint.Snapshot.Encode

namespace Footprint

open Json

def Json.binary32 (x : Float32) : Json :=
  match Decimal.shortestText? x with
  | some literal => .number (.decimal literal)
  | none => .null

def Extent.toJson (name : String) (e : Extent) : Json :=
  record [
    ("name", text name), ("size", natural e.size), ("virtual_size", natural e.virtualSize)]

def Roster.toJson {α : Type} (value : String → α → Json) (r : Roster String α) : Json :=
  record (r.entries.map fun (key, a) => (key, value key a))

def Contributions.toJson (c : Contributions) : Json :=
  record [
    ("sections", c.sections.toJson Extent.toJson),
    ("coff_groups", c.coffGroups.toJson Extent.toJson)]

def Diff.members {α : Type} [Sized α] (name : String) (value : α → Json) (d : Diff α)
    : List (String × Json) := [
  ("name", text name), ("size_diff", integer d.sizeDiff),
  ("virtual_size_diff", integer d.virtualSizeDiff), ("before", optional value d.before?),
  ("after", optional value d.after?)]

def Diff.toJson {α : Type} [Entity α] (value : α → Json) (d : Diff α) : Json :=
  record (d.members d.name value)

def Diff.extentToJson (name : String) (d : Diff Extent) : Json :=
  record (d.members name (Extent.toJson name))

def ContributionDiffs.toJson (d : ContributionDiffs) : Json :=
  record [
    ("sections", d.sections.toJson Diff.extentToJson),
    ("coff_groups", d.coffGroups.toJson Diff.extentToJson)]

def ContainerDiff.toJson {α : Type} [Container α] (value : α → Json) (d : ContainerDiff α) : Json :=
  record (d.diff.members d.name value ++ [("contributions", d.contributions.toJson)])

def CoffGroup.toJson (g : CoffGroup) : Json :=
  record [
    ("name", text g.name), ("section", text g.sectionName), ("size", natural g.size),
    ("virtual_size", natural g.virtualSize)]

def BinarySection.toJson (s : BinarySection) : Json :=
  record [
    ("name", text s.name), ("size", natural s.size), ("virtual_size", natural s.virtualSize),
    ("coff_groups", list CoffGroup.toJson s.coffGroups)]

def SectionDiff.toJson (d : SectionDiff) : Json :=
  record (d.diff.members d.name BinarySection.toJson
    ++ [("coff_groups", d.coffGroups.toJson fun _ g => g.toJson CoffGroup.toJson)])

def Lib.toJson (l : Lib) : Json :=
  record [
    ("name", text l.name), ("short_name", text (shortName l.name)),
    ("compilands", list text l.compilands), ("contributions", l.contributions.toJson)]

def Compiland.toJson (c : Compiland) : Json :=
  record [
    ("name", text c.name), ("short_name", text (shortName c.name)), ("lib", text c.lib),
    ("contributions", c.contributions.toJson)]

def SourceFile.toJson (f : SourceFile) : Json :=
  record [
    ("name", text f.name), ("short_name", text (shortName f.name)),
    ("contributions", f.contributions.toJson)]

def DuplicateData.toJson (d : DuplicateData) : Json :=
  record [
    ("symbol", d.symbol.toJson), ("referenced_in", list text d.referencedIn),
    ("total_size", natural d.totalSize), ("wasted_size", natural d.wastedSize)]

def DuplicateData.diffToJson (d : Diff DuplicateData) : Json :=
  record [
    ("name", text d.name), ("size_diff", integer d.sizeDiff),
    ("virtual_size_diff", integer d.virtualSizeDiff),
    ("wasted_size_diff", integer d.wastedSizeDiff),
    ("wasted_size_remaining", natural d.wastedSizeRemaining),
    ("before", optional DuplicateData.toJson d.before?),
    ("after", optional DuplicateData.toJson d.after?)]

def Foldability.toJson (f : Foldability) : Json :=
  record [
    ("template_name", text f.templateName), ("symbols", list TemplatedFunction.toJson f.symbols),
    ("unique_symbols", list (fun (s : TemplatedFunction) => text s.name) f.uniqueSymbols),
    ("total_size", natural f.totalSize), ("wasted_size", natural f.wastedSize),
    ("percentage_similarity", binary32 f.similarity)]

def Foldability.diffToJson (d : Diff Foldability) : Json :=
  record [
    ("template_name", text d.name), ("size_diff", integer d.sizeDiff),
    ("wasted_size_diff", integer d.wastedSizeDiff),
    ("wasted_size_remaining", natural d.wastedSizeRemaining),
    ("before", optional Foldability.toJson d.before?),
    ("after", optional Foldability.toJson d.after?)]

def WastedOverride.toJson (w : WastedOverride) : Json :=
  record [("type_name", text w.typeName), ("function", text w.function)]

def WastefulVirtual.toJson (v : WastefulVirtual) : Json :=
  record [
    ("type_name", text v.typeName), ("is_com_type", bool v.isComType),
    ("bytes_per_word", natural v.bytesPerWord), ("derived_types", list text v.derivedTypes),
    ("wasted_overrides_pure_with_exactly_one_override",
      list WastedOverride.toJson v.pureOverriddenOnce),
    ("wasted_overrides_non_pure_with_no_overrides", list WastedOverride.toJson v.neverOverridden),
    ("waste_per_slot", natural v.wastePerSlot), ("wasted_size", natural v.wastedSize)]

def HierarchyChange.toJson (c : HierarchyChange) : Json :=
  record [("type_name", text c.typeName), ("waste_change", integer c.wasteChange)]

def OverrideChange.toJson (c : OverrideChange) : Json :=
  record [("wasted_override", c.override.toJson), ("waste_change", integer c.wasteChange)]

def WastefulVirtualDiff.toJson (d : WastefulVirtualDiff) : Json :=
  record [
    ("type_name", text d.typeName), ("is_com_type", bool d.isComType),
    ("wasted_size_diff", integer d.wastedSizeDiff),
    ("wasted_size_remaining", natural d.diff.wastedSizeRemaining),
    ("type_hierarchy_changes", list HierarchyChange.toJson d.hierarchyChanges),
    ("wasted_override_changes", list OverrideChange.toJson d.overrideChanges),
    ("before", optional WastefulVirtual.toJson d.diff.before?),
    ("after", optional WastefulVirtual.toJson d.diff.after?)]

def Analysis.toJson (a : Analysis) : Json :=
  record [
    ("binary", text a.binary), ("bytes_per_word", natural a.bytesPerWord),
    ("sections", list BinarySection.toJson a.sections), ("libs", list Lib.toJson a.libs),
    ("compilands", list Compiland.toJson a.compilands),
    ("source_files", list SourceFile.toJson a.sourceFiles),
    ("symbols", list Symbol.toJson a.symbols),
    ("duplicate_data", list DuplicateData.toJson a.duplicateData),
    ("template_foldability", list Foldability.toJson a.foldability),
    ("wasteful_virtuals", list WastefulVirtual.toJson a.wastefulVirtuals)]

def Comparison.toJson (c : Comparison) : Json :=
  record [
    ("before_binary", text c.beforeBinary), ("after_binary", text c.afterBinary),
    ("sections", list SectionDiff.toJson c.sections),
    ("libs", list (ContainerDiff.toJson Lib.toJson) c.libs),
    ("compilands", list (ContainerDiff.toJson Compiland.toJson) c.compilands),
    ("source_files", list (ContainerDiff.toJson SourceFile.toJson) c.sourceFiles),
    ("symbols", list (Diff.toJson Symbol.toJson) c.symbols),
    ("duplicate_data", list DuplicateData.diffToJson c.duplicateData),
    ("template_foldability", list Foldability.diffToJson c.foldability),
    ("wasteful_virtuals", list WastefulVirtualDiff.toJson c.wastefulVirtuals)]

def ChangeTotals.toJson (t : ChangeTotals) : Json :=
  record [
    ("added", natural t.added), ("removed", natural t.removed), ("grown", natural t.grown),
    ("shrunk", natural t.shrunk), ("unchanged", natural t.unchanged), ("total", natural t.total)]

def WasteTotals.toJson (t : WasteTotals) : Json :=
  record [
    ("duplicate_data_items", natural t.duplicateDataItems),
    ("duplicate_data_compilands_unique", natural t.duplicateDataCompilands),
    ("duplicate_data_wasted_size", natural t.duplicateDataWasted),
    ("template_foldability_items", natural t.foldabilityItems),
    ("template_foldability_wasted_size", natural t.foldabilityWasted),
    ("wasteful_virtual_items", natural t.wastefulVirtualItems),
    ("wasteful_virtual_com_types", natural t.wastefulVirtualComTypes),
    ("wasteful_virtual_wasted_size", natural t.wastefulVirtualWasted),
    ("total_wasted_size", natural t.totalWasted)]

def WasteDiffTotals.toJson (t : WasteDiffTotals) : Json :=
  record [
    ("duplicate_data_wasted_size_diff", integer t.duplicateDataDiff),
    ("duplicate_data_wasted_size_remaining", natural t.duplicateDataRemaining),
    ("template_foldability_wasted_size_diff", integer t.foldabilityDiff),
    ("template_foldability_wasted_size_remaining", natural t.foldabilityRemaining),
    ("wasteful_virtual_wasted_size_diff", integer t.wastefulVirtualDiff),
    ("wasteful_virtual_wasted_size_remaining", natural t.wastefulVirtualRemaining),
    ("wasteful_virtual_types_changed_unique", natural t.typesChanged),
    ("total_wasted_size_diff", integer t.totalDiff)]

def SingleTotals.toJson (t : SingleTotals) : Json :=
  record [
    ("sections", natural t.sections), ("libs", natural t.libs),
    ("compilands", natural t.compilands), ("source_files", natural t.sourceFiles),
    ("symbols", natural t.symbols), ("size", natural t.size),
    ("virtual_size", natural t.virtualSize), ("waste", t.waste.toJson)]

def DiffTotals.toJson (t : DiffTotals) : Json :=
  record [
    ("size_diff", integer t.sizeDiff), ("virtual_size_diff", integer t.virtualSizeDiff),
    ("sections", t.sections.toJson), ("libs", t.libs.toJson),
    ("compilands", t.compilands.toJson), ("source_files", t.sourceFiles.toJson),
    ("symbols", t.symbols.toJson), ("waste", t.waste.toJson)]

def Report.toJson (r : Report) : Json :=
  let (mode, totals, analysis) :=
    match r with
    | .single analysis totals => ("single", totals.toJson, analysis.toJson)
    | .diff comparison totals => ("diff", totals.toJson, comparison.toJson)
  record [
    ("mode", text mode), ("binary", text r.binary), ("totals", totals), ("analysis", analysis)]

end Footprint
