import Footprint.Snapshot.Error

namespace Footprint

def checkDistinct (kind : RecordKind) (names : List String) : Except SnapshotError Unit :=
  match firstRepeat? names with
  | some name => .error (.duplicateName kind name)
  | none => .ok ()

def checkReferences (sections : List SectionRecord) (container : String)
    (records : List ContributionRecord) : Except SnapshotError Unit :=
  records.forM fun r =>
    match sections.find? (·.name = r.sectionName) with
    | none => .error (.unknownSection container r.sectionName)
    | some s =>
      if r.coffGroup ∈ s.coffGroups.map (·.name) then
        .ok ()
      else
        .error (.unknownCoffGroup container r.sectionName r.coffGroup)

def placesOf (sections : List SectionRecord) : List (Place × Nat) :=
  sections.flatMap fun s =>
    (.binarySection s.name, s.size) :: s.coffGroups.map fun g => (.coffGroup g.name, g.size)

def checkCoverage (kind : ContainerKind) (sections : List SectionRecord)
    (records : List ContributionRecord) : Except SnapshotError Unit :=
  match Contributions.ofRecords records with
  | .error place => .error (.sizeOverflow (.contributions kind place))
  | .ok totals =>
    (placesOf sections).forM fun (place, size) =>
      let contributed := (totals.extentAt place).size
      if contributed ≤ size then
        .ok ()
      else
        .error (.contributionsExceedSize kind place contributed size)

def checkTotal (sum : SizeSum) (sizes : List Nat) : Except SnapshotError Unit :=
  match Quantity.total? sizes with
  | some _ => .ok ()
  | none => .error (.sizeOverflow sum)

def checkCodeRanges (functions : List TemplatedFunction) : Except SnapshotError Unit :=
  match functions.find? fun f => (Quantity.add? f.rva f.size).isNone with
  | some f => .error (.sizeOverflow (.codeRange f.name))
  | none => .ok ()

namespace Snapshot

def check (s : Snapshot) : Except SnapshotError Unit := do
  if s.bytesPerWord = 0 then
    throw (.invalidBytesPerWord s.bytesPerWord)
  checkDistinct .binarySection (s.sections.map (·.name))
  checkDistinct .coffGroup (s.sections.flatMap fun sec => sec.coffGroups.map (·.name))
  checkDistinct .compiland (s.compilands.map (·.name))
  checkDistinct .sourceFile (s.sourceFiles.map (·.name))
  checkDistinct .symbol (s.symbols.map (·.name))
  checkDistinct .userDefinedType (s.userDefinedTypes.map (·.name))
  s.compilands.forM fun c => checkReferences s.sections c.name c.contributions
  s.sourceFiles.forM fun f => checkReferences s.sections f.name f.contributions
  checkCoverage .compiland s.sections (s.compilands.flatMap (·.contributions))
  checkCoverage .sourceFile s.sections (s.sourceFiles.flatMap (·.contributions))
  checkTotal .sections (s.sections.map (·.size))
  checkTotal .sectionsInMemory (s.sections.map (·.virtualSize))
  checkTotal .dataAndFunctions (s.staticData.map (·.size) ++ s.templatedFunctions.map (·.size))
  checkCodeRanges s.templatedFunctions

end Snapshot

end Footprint
