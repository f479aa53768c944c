import Footprint.Quantity
import Footprint.Roster
import Footprint.Snapshot.Record

/-!
This module contains the contributions of a container, that is of a lib, a compiland or a source
file: how many of its bytes lie in each section and in each COFF group.
-/

namespace Footprint

inductive Place where
  | binarySection (name : String)
  | coffGroup (name : String)
  deriving DecidableEq, Repr

namespace Place

def name : Place → String
  | binarySection name => name
  | coffGroup name => name

def label : Place → String
  | binarySection name => s!"section {name}"
  | coffGroup name => s!"COFF group {name}"

def title : Place → String
  | binarySection name => s!"Section {name}"
  | coffGroup name => s!"COFF group {name}"

def columnTitle : Place → String
  | binarySection name => s!"Section: {name}"
  | coffGroup name => s!"COFF Group: {name}"

end Place

structure Extent where
  size : Nat := 0
  virtualSize : Nat := 0
  deriving DecidableEq, Repr

def Extent.add? (a b : Extent) : Option Extent := do
  let size ← Quantity.add? a.size b.size
  let virtualSize ← Quantity.add? a.virtualSize b.virtualSize
  return { size, virtualSize }

def ContributionRecord.extent (r : ContributionRecord) : Extent where
  size := r.size
  virtualSize := r.virtualSize

structure ContributionStep where
  place : Place
  amount : Option Extent := none
  deriving DecidableEq, Repr

structure Contributions where
  sections : Roster String Extent
  coffGroups : Roster String Extent
  deriving DecidableEq, Repr

namespace Contributions

def empty : Contributions where
  sections := .empty
  coffGroups := .empty

instance : Inhabited Contributions where
  default := empty

def find? (c : Contributions) : Place → Option Extent
  | .binarySection name => c.sections.find? name
  | .coffGroup name => c.coffGroups.find? name

def extentAt (c : Contributions) (p : Place) : Extent :=
  (c.find? p).getD {}

def put (c : Contributions) (p : Place) (e : Extent) : Contributions :=
  match p with
  | .binarySection name => { c with sections := c.sections.insert name e }
  | .coffGroup name => { c with coffGroups := c.coffGroups.insert name e }

def touch (c : Contributions) (p : Place) : Contributions :=
  c.put p (c.extentAt p)

def add? (c : Contributions) (p : Place) (e : Extent) : Option Contributions :=
  ((c.extentAt p).add? e).map (c.put p)

def add (c : Contributions) (p : Place) (e : Extent) : Except Place Contributions :=
  match c.add? p e with
  | some c => .ok c
  | none => .error p

/--
Takes a step. If the sums of its place reach the limit, the place is named but keeps what it had,
and the error is given.
-/
def take (c : Contributions) (s : ContributionStep) : Contributions × Option Place :=
  let named := c.touch s.place
  match s.amount with
  | none => (named, none)
  | some e =>
    match named.add? s.place e with
    | some c => (c, none)
    | none => (named, some s.place)

def addRecord (c : Contributions) (r : ContributionRecord) : Except Place Contributions := do
  let c ← c.add (.binarySection r.sectionName) r.extent
  c.add (.coffGroup r.coffGroup) r.extent

def ofRecords (records : List ContributionRecord) : Except Place Contributions :=
  records.foldlM addRecord empty

def merge (c d : Contributions) : Except Place Contributions := do
  let c ← d.sections.entries.foldlM (fun c (name, e) => c.add (.binarySection name) e) c
  d.coffGroups.entries.foldlM (fun c (name, e) => c.add (.coffGroup name) e) c

def mergeAll (cs : List Contributions) : Except Place Contributions :=
  cs.foldlM merge empty

def size (c : Contributions) : Nat :=
  Quantity.saturatingTotal (c.sections.values.map (·.size))

def virtualSize (c : Contributions) : Nat :=
  Quantity.saturatingTotal (c.sections.values.map (·.virtualSize))

end Contributions

inductive ContainerKind where
  | lib
  | compiland
  | sourceFile
  deriving DecidableEq, Repr

namespace ContainerKind

def label : ContainerKind → String
  | lib => "lib"
  | compiland => "compiland"
  | sourceFile => "source file"

def title : ContainerKind → String
  | lib => "Lib"
  | compiland => "Compiland"
  | sourceFile => "Source file"

end ContainerKind

end Footprint
