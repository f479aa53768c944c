import Footprint.FirstSeen
import Footprint.Pass
import Footprint.Waste

/-!
This module contains the search for static data of which several compilands carry copies with equal
contents.
-/

namespace Footprint

structure Copies where
  symbol : StaticData
  referencedIn : List String
  deriving DecidableEq, Repr

structure DuplicateData where
  symbol : StaticData
  referencedIn : List String
  totalSize : Nat
  totalVirtualSize : Nat
  wastedSize : Nat
  deriving DecidableEq, Repr

instance : Entity DuplicateData where
  name d := d.symbol.name
  size := DuplicateData.totalSize
  virtualSize := DuplicateData.totalVirtualSize

instance : Wasteful DuplicateData where
  wastedSize := DuplicateData.wastedSize

namespace Copies

def start (symbol : StaticData) (compiland : String) : Copies where
  symbol := symbol
  referencedIn := [compiland]

def add (c : Copies) (compiland : String) : Copies :=
  if compiland ∈ c.referencedIn then c
  else { c with referencedIn := c.referencedIn ++ [compiland] }

def finish (c : Copies) : Except AnalysisError DuplicateData :=
  let copies := c.referencedIn.length
  match Quantity.mul? c.symbol.size copies, Quantity.mul? c.symbol.virtualSize copies with
  | some totalSize, some totalVirtualSize =>
    .ok {
      symbol := c.symbol
      referencedIn := c.referencedIn.mergeSort
      totalSize, totalVirtualSize
      wastedSize := c.symbol.size * (copies - 1) }
  | _, _ => .error (.sanity (.copiesOverflow copies c.symbol.name))

end Copies

namespace DuplicateData

/--
Whether two pieces of data of one name and size are copies of each other. At one address they are
the same copy, and with other contents they are other data.
-/
def areCopies (first second : StaticData) : Bool :=
  first.rva ≠ second.rva && first.bytes = second.bytes

structure Candidates where
  single : List StaticData
  copied : List Copies
  deriving DecidableEq, Repr

namespace Candidates

def empty : Candidates where
  single := []
  copied := []

def join? (d : StaticData) : List Copies → Option (List Copies)
  | [] => none
  | c :: rest =>
    if areCopies c.symbol d then some (c.add d.compiland :: rest)
    else (join? d rest).map (c :: ·)

def take (cs : Candidates) (d : StaticData) : Candidates :=
  match join? d cs.copied with
  | some copied => { cs with copied }
  | none =>
    match cs.single.find? (areCopies · d) with
    | some first =>
      { single := cs.single.eraseP (areCopies · d)
        copied := cs.copied ++ [(Copies.start first first.compiland).add d.compiland] }
    | none => { cs with single := cs.single ++ [d] }

end Candidates

def inClass (data : List StaticData) : Except AnalysisError (List DuplicateData) := do
  let items ← (data.foldl Candidates.take .empty).copied.mapM Copies.finish
  return items.filter (1 < ·.referencedIn.length)

def dataClasses (s : Snapshot) : List (List StaticData) :=
  let data := s.staticData.filter fun d => d.size ≠ 0 || d.virtualSize ≠ 0
  (classes (fun d => (d.name, d.size, d.virtualSize)) data).map Prod.snd

def find (s : Snapshot) : Pass (List DuplicateData) := do
  let groups := dataClasses s
  let items ← Sweep.run .duplicateData (Quantity.sum (groups.map List.length))
    (fun sweep data => sweep.advanceEach data.length)
    (fun items data => do return items ++ (← inClass data))
    [] List.length groups
  Pass.log .debug s!"Found duplicate data: items={items.length}"
  return items

/-- Keys items by their names. From its second occurrence on a name is followed by its number. -/
def keyByOccurrence (items : List DuplicateData) : List (String × DuplicateData) :=
  go [] items
where
  go (earlier : List String) : List DuplicateData → List (String × DuplicateData)
    | [] => []
    | d :: rest =>
      let name := d.symbol.name
      let count := earlier.count name + 1
      let key := if count = 1 then name else s!"{name}#{count}"
      (key, d) :: go (name :: earlier) rest

def diff (before after : List DuplicateData) : Except PairingError (List (Diff DuplicateData)) := do
  let pairs ← pairByKey Prod.fst (keyByOccurrence before) (keyByOccurrence after)
  return pairs.map (·.map Prod.snd)

end DuplicateData

end Footprint
