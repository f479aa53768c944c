import Footprint.Quantity
import Footprint.Roster

/-!
This module contains the pairing of what two builds have in common, and the signed differences
between the two sides of a pair.
-/

namespace Footprint

class Sized (α : Type) where
  size : α → Nat
  virtualSize : α → Nat

class Entity (α : Type) extends Sized α where
  name : α → String

inductive Side where
  | before
  | after
  deriving DecidableEq, Repr

def Side.label : Side → String
  | before => "before"
  | after => "after"

inductive PairingError where
  | duplicateName (side : Side) (name : String)
  deriving DecidableEq, Repr

def PairingError.message : PairingError → String
  | duplicateName side name => s!"Duplicate name on the {side.label} side of a diff: {name}"

inductive Diff (α : Type) where
  | beforeOnly (before : α)
  | afterOnly (after : α)
  | both (before after : α)
  deriving DecidableEq, Repr

namespace Diff

variable {α β : Type}

def ofSides? : Option α → Option α → Option (Diff α)
  | some before, some after => some (both before after)
  | some before, none => some (beforeOnly before)
  | none, some after => some (afterOnly after)
  | none, none => none

def before? : Diff α → Option α
  | beforeOnly before => some before
  | afterOnly _ => none
  | both before _ => some before

def after? : Diff α → Option α
  | beforeOnly _ => none
  | afterOnly after => some after
  | both _ after => some after

def either : Diff α → α
  | beforeOnly before => before
  | afterOnly after => after
  | both before _ => before

def map (f : α → β) : Diff α → Diff β
  | beforeOnly before => beforeOnly (f before)
  | afterOnly after => afterOnly (f after)
  | both before after => both (f before) (f after)

def deltaBy (quantity : α → Nat) (d : Diff α) : Int :=
  Quantity.delta (d.before?.elim 0 quantity) (d.after?.elim 0 quantity)

def sizeDiff [Sized α] (d : Diff α) : Int :=
  d.deltaBy Sized.size

def virtualSizeDiff [Sized α] (d : Diff α) : Int :=
  d.deltaBy Sized.virtualSize

def name [Entity α] (d : Diff α) : String :=
  Entity.name d.either

def isSignificant [Sized α] (d : Diff α) : Bool :=
  d.sizeDiff ≠ 0 || d.virtualSizeDiff ≠ 0

end Diff

def addPlace (side : Side) (places : Roster String Nat) (entry : String × Nat)
    : Except PairingError (Roster String Nat) :=
  if entry.1 ∈ places.keys then
    .error (.duplicateName side entry.1)
  else
    .ok (places.insert entry.1 entry.2)

def placesByKey (side : Side) (keys : List String) : Except PairingError (Roster String Nat) :=
  keys.zipIdx.foldlM (addPlace side) .empty

def takeSlot {α : Type} (places : Roster String Nat) (slots : List (Option α)) (key : String)
    : Option α × List (Option α) :=
  match places.find? key with
  | some place => (slots[place]?.join, slots.set place none)
  | none => (none, slots)

def pairSlots {α : Type} (key : α → String) (places : Roster String Nat)
    : List α → List (Option α) → List (Diff α) × List (Option α)
  | [], slots => ([], slots)
  | b :: before, slots =>
    let (taken, slots) := takeSlot places slots (key b)
    let (pairs, slots) := pairSlots key places before slots
    match taken with
    | some a => (.both b a :: pairs, slots)
    | none => (.beforeOnly b :: pairs, slots)

/--
Pairs the members of two lists by their keys. What is in the earlier list comes first and in its
order, then what is in the later list only. Each member of the later list stands in a slot of its
own, which is found by its key.
-/
def pairByKey {α : Type} (key : α → String) (before after : List α)
    : Except PairingError (List (Diff α)) := do
  let _ ← placesByKey .before (before.map key)
  let places ← placesByKey .after (after.map key)
  let (pairs, slots) := pairSlots key places before (after.map some)
  return pairs ++ (slots.filterMap id).map .afterOnly

def pairByName {α : Type} [Entity α] (before after : List α)
    : Except PairingError (List (Diff α)) :=
  pairByKey Entity.name before after

namespace Roster

variable {κ α : Type} [DecidableEq κ]

def pairEntry (after : Roster κ α) (e : κ × α) : κ × Diff α :=
  (e.1,
    match after.find? e.1 with
    | some a => .both e.2 a
    | none => .beforeOnly e.2)

def pair (before after : Roster κ α) : Roster κ (Diff α) where
  entries :=
    before.entries.map (pairEntry after)
      ++ (after.entries.filter (·.1 ∉ before.keys)).map fun e => (e.1, .afterOnly e.2)
  distinct := by
    have hb : (before.entries.map (pairEntry after)).map Prod.fst = before.keys := by
      simp [pairEntry, keys]
    have ha : ((after.entries.filter (·.1 ∉ before.keys)).map
        fun e => (e.1, Diff.afterOnly e.2)).map Prod.fst
          = after.keys.filter (· ∉ before.keys) := by
      simp only [List.map_map, keys, List.filter_map]
      rfl
    rw [List.map_append, hb, ha]
    refine List.nodup_append.2 ⟨before.distinct, List.Pairwise.filter _ after.distinct, ?_⟩
    intro a h b hmem
    simp at hmem
    rintro rfl
    exact hmem.2 h

end Roster

end Footprint
