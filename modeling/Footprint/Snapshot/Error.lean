import Footprint.Contributions

namespace Footprint

inductive RecordKind where
  | binarySection
  | coffGroup
  | compiland
  | sourceFile
  | symbol
  | userDefinedType
  deriving DecidableEq, Repr

def RecordKind.label : RecordKind → String
  | binarySection => "section"
  | coffGroup => "COFF group"
  | compiland => "compiland"
  | sourceFile => "source file"
  | symbol => "symbol"
  | userDefinedType => "user-defined type"

inductive SizeSum where
  | contributions (kind : ContainerKind) (place : Place)
  | sections
  | sectionsInMemory
  | dataAndFunctions
  | codeRange (function : String)
  deriving DecidableEq, Repr

def SizeSum.label : SizeSum → String
  | contributions kind place => s!"{kind.label} contributions to {place.label}"
  | sections => "all sections"
  | sectionsInMemory => "all sections in memory"
  | dataAndFunctions => "all static data and templated functions"
  | codeRange function => s!"code range of {function}"

inductive SnapshotError where
  | malformed (origin : String)
  | duplicateName (kind : RecordKind) (name : String)
  | unknownSection (container sectionName : String)
  | unknownCoffGroup (container sectionName coffGroup : String)
  | invalidBytesPerWord (bytesPerWord : Nat)
  | contributionsExceedSize (kind : ContainerKind) (place : Place) (contributed size : Nat)
  | sizeOverflow (sum : SizeSum)
  deriving DecidableEq, Repr

def SnapshotError.message : SnapshotError → String
  | malformed origin => s!"Failed to parse snapshot: {origin}"
  | duplicateName kind name => s!"Duplicate {kind.label} name in snapshot: {name}"
  | unknownSection container sectionName =>
    s!"Contribution of {container} references unknown section: {sectionName}"
  | unknownCoffGroup container sectionName coffGroup =>
    s!"Contribution of {container} references COFF group {coffGroup} "
      ++ s!"outside of section {sectionName}"
  | invalidBytesPerWord bytesPerWord => s!"Invalid bytes per word: {bytesPerWord}"
  | contributionsExceedSize kind place contributed size =>
    s!"Contributions of {kind.label}s to {place.label} sum to {contributed} bytes, "
      ++ s!"more than its {size} bytes"
  | sizeOverflow sum => s!"Size of {sum.label} overflows"

end Footprint
