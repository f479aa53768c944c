import Footprint.Json
import Footprint.Snapshot.Record

namespace Footprint

open Json

def CoffGroupRecord.toJson (r : CoffGroupRecord) : Json :=
  record [("name", text r.name), ("size", natural r.size), ("virtual_size", natural r.virtualSize)]

def SectionRecord.toJson (r : SectionRecord) : Json :=
  record [
    ("name", text r.name), ("size", natural r.size), ("virtual_size", natural r.virtualSize),
    ("coff_groups", list CoffGroupRecord.toJson r.coffGroups)]

def ContributionRecord.toJson (r : ContributionRecord) : Json :=
  record [
    ("section", text r.sectionName), ("coff_group", text r.coffGroup), ("size", natural r.size),
    ("virtual_size", natural r.virtualSize)]

def CompilandRecord.toJson (r : CompilandRecord) : Json :=
  record [
    ("name", text r.name), ("lib", text r.lib),
    ("contributions", list ContributionRecord.toJson r.contributions)]

def SourceFileRecord.toJson (r : SourceFileRecord) : Json :=
  record [
    ("name", text r.name), ("contributions", list ContributionRecord.toJson r.contributions)]

def Symbol.toJson (s : Symbol) : Json :=
  record [
    ("name", text s.name), ("rva", natural s.rva), ("size", natural s.size),
    ("virtual_size", natural s.virtualSize)]

def StaticData.toJson (d : StaticData) : Json :=
  record [
    ("name", text d.name), ("rva", natural d.rva), ("size", natural d.size),
    ("virtual_size", natural d.virtualSize), ("compiland", text d.compiland)]

def TemplatedFunction.toJson (f : TemplatedFunction) : Json :=
  record [
    ("name", text f.name), ("argument_types", list text f.argumentTypes),
    ("is_const", bool f.isConst), ("is_volatile", bool f.isVolatile), ("rva", natural f.rva),
    ("size", natural f.size), ("is_folded", bool f.isFolded),
    ("block_count", natural f.blockCount)]

def MemberFunction.toJson (f : MemberFunction) : Json :=
  record [
    ("name", text f.name), ("is_virtual", bool f.isVirtual), ("is_pure", bool f.isPure),
    ("is_static", bool f.isStatic)]

def UserDefinedType.toJson (t : UserDefinedType) : Json :=
  record [
    ("name", text t.name), ("base_types", list text t.baseTypes),
    ("functions", list MemberFunction.toJson t.functions)]

end Footprint
