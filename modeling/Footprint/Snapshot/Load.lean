import Footprint.Json.Fields
import Footprint.Json.Reader
import Footprint.Snapshot.Check

namespace Footprint

open Json

def Json.count? : Json → Option Nat :=
  natural? wordLimit

def Json.small? : Json → Option Nat :=
  natural? 0x100000000

namespace CoffGroupRecord

def fieldNames : List String := ["name", "size", "virtual_size"]

def ofJson? (value : Json) : Option CoffGroupRecord := do
  let fields ← fields? fieldNames value
  let name ← fields.required "name" text?
  let size ← fields.optional "size" count? 0
  let virtualSize ← fields.optional "virtual_size" count? 0
  return { name, size, virtualSize }

end CoffGroupRecord

namespace SectionRecord

def fieldNames : List String := ["name", "size", "virtual_size", "coff_groups"]

def ofJson? (value : Json) : Option SectionRecord := do
  let fields ← fields? fieldNames value
  let name ← fields.required "name" text?
  let size ← fields.optional "size" count? 0
  let virtualSize ← fields.optional "virtual_size" count? 0
  let coffGroups ← fields.optional "coff_groups" (list? CoffGroupRecord.ofJson?) []
  return { name, size, virtualSize, coffGroups }

end SectionRecord

namespace ContributionRecord

def fieldNames : List String := ["section", "coff_group", "size", "virtual_size"]

def ofJson? (value : Json) : Option ContributionRecord := do
  let fields ← fields? fieldNames value
  let sectionName ← fields.required "section" text?
  let coffGroup ← fields.required "coff_group" text?
  let size ← fields.optional "size" count? 0
  let virtualSize ← fields.optional "virtual_size" count? 0
  return { sectionName, coffGroup, size, virtualSize }

end ContributionRecord

namespace CompilandRecord

def fieldNames : List String := ["name", "lib", "contributions"]

def ofJson? (value : Json) : Option CompilandRecord := do
  let fields ← fields? fieldNames value
  let name ← fields.required "name" text?
  let lib ← fields.required "lib" text?
  let contributions ← fields.optional "contributions" (list? ContributionRecord.ofJson?) []
  return { name, lib, contributions }

end CompilandRecord

namespace SourceFileRecord

def fieldNames : List String := ["name", "contributions"]

def ofJson? (value : Json) : Option SourceFileRecord := do
  let fields ← fields? fieldNames value
  let name ← fields.required "name" text?
  let contributions ← fields.optional "contributions" (list? ContributionRecord.ofJson?) []
  return { name, contributions }

end SourceFileRecord

namespace Symbol

def fieldNames : List String := ["name", "rva", "size", "virtual_size"]

def ofJson? (value : Json) : Option Symbol := do
  let fields ← fields? fieldNames value
  let name ← fields.required "name" text?
  let rva ← fields.required "rva" count?
  let size ← fields.optional "size" count? 0
  let virtualSize ← fields.optional "virtual_size" count? 0
  return { name, rva, size, virtualSize }

end Symbol

namespace StaticData

def fieldNames : List String := ["name", "rva", "size", "virtual_size", "compiland", "bytes"]

def ofJson? (value : Json) : Option StaticData := do
  let fields ← fields? fieldNames value
  let name ← fields.required "name" text?
  let rva ← fields.required "rva" count?
  let size ← fields.optional "size" count? 0
  let virtualSize ← fields.optional "virtual_size" count? 0
  let compiland ← fields.required "compiland" text?
  let bytes ← fields.optional "bytes" (list? byte?) []
  return { name, rva, size, virtualSize, compiland, bytes }

end StaticData

namespace TemplatedFunction

def fieldNames : List String := [
  "name", "argument_types", "is_const", "is_volatile", "rva", "size", "is_folded", "block_count",
  "code"]

def ofJson? (value : Json) : Option TemplatedFunction := do
  let fields ← fields? fieldNames value
  let name ← fields.required "name" text?
  let argumentTypes ← fields.optional "argument_types" (list? text?) []
  let isConst ← fields.optional "is_const" bool? false
  let isVolatile ← fields.optional "is_volatile" bool? false
  let rva ← fields.required "rva" count?
  let size ← fields.optional "size" count? 0
  let isFolded ← fields.optional "is_folded" bool? false
  let blockCount ← fields.optional "block_count" small? 1
  let code ← fields.optional "code" (list? byte?) []
  return { name, argumentTypes, isConst, isVolatile, rva, size, isFolded, blockCount, code }

end TemplatedFunction

namespace MemberFunction

def fieldNames : List String := ["name", "is_virtual", "is_pure", "is_static"]

def ofJson? (value : Json) : Option MemberFunction := do
  let fields ← fields? fieldNames value
  let name ← fields.required "name" text?
  let isVirtual ← fields.optional "is_virtual" bool? false
  let isPure ← fields.optional "is_pure" bool? false
  let isStatic ← fields.optional "is_static" bool? false
  return { name, isVirtual, isPure, isStatic }

end MemberFunction

namespace UserDefinedType

def fieldNames : List String := ["name", "base_types", "functions"]

def ofJson? (value : Json) : Option UserDefinedType := do
  let fields ← fields? fieldNames value
  let name ← fields.required "name" text?
  let baseTypes ← fields.optional "base_types" (list? text?) []
  let functions ← fields.optional "functions" (list? MemberFunction.ofJson?) []
  return { name, baseTypes, functions }

end UserDefinedType

namespace Snapshot

def fieldNames : List String := [
  "binary", "bytes_per_word", "sections", "compilands", "source_files", "symbols", "static_data",
  "templated_functions", "user_defined_types"]

def ofJson? (value : Json) : Option Snapshot := do
  let fields ← fields? fieldNames value
  let binary ← fields.optional "binary" text? ""
  let bytesPerWord ← fields.optional "bytes_per_word" small? 8
  let sections ← fields.optional "sections" (list? SectionRecord.ofJson?) []
  let compilands ← fields.optional "compilands" (list? CompilandRecord.ofJson?) []
  let sourceFiles ← fields.optional "source_files" (list? SourceFileRecord.ofJson?) []
  let symbols ← fields.optional "symbols" (list? Symbol.ofJson?) []
  let staticData ← fields.optional "static_data" (list? StaticData.ofJson?) []
  let templatedFunctions ←
    fields.optional "templated_functions" (list? TemplatedFunction.ofJson?) []
  let userDefinedTypes ← fields.optional "user_defined_types" (list? UserDefinedType.ofJson?) []
  return {
    binary, bytesPerWord, sections, compilands, sourceFiles, symbols, staticData
    templatedFunctions, userDefinedTypes }

def load (origin : String) (value : Option Json) : Except SnapshotError Snapshot :=
  match value.bind ofJson? with
  | none => .error (.malformed origin)
  | some s => do
    s.check
    return s

def parse (origin document : String) : Except SnapshotError Snapshot :=
  load origin (Json.parse? document)

end Snapshot

end Footprint
