import Footprint.Waste
import Footprint.Waste.Hierarchy

/-!
This module contains the search for virtual functions that buy no polymorphism anywhere in their
hierarchy, so that their slots in the virtual tables are wasted. The sizes are products of 64 bits:
they wrap around, or end the search in a build of the program that checks its arithmetic.
-/

namespace Footprint

structure WastedOverride where
  typeName : String
  function : String
  deriving DecidableEq, Repr

structure WastefulVirtual where
  typeName : String
  isComType : Bool
  bytesPerWord : Nat
  derivedTypes : List String
  pureOverriddenOnce : List WastedOverride
  neverOverridden : List WastedOverride
  deriving DecidableEq, Repr

namespace WastefulVirtual

def overrides (v : WastefulVirtual) : List WastedOverride :=
  v.pureOverriddenOnce ++ v.neverOverridden

def wastePerSlot (v : WastefulVirtual) : Nat :=
  Quantity.wrappingMul v.bytesPerWord (1 + v.derivedTypes.length)

def wastedSize (v : WastefulVirtual) : Nat :=
  Quantity.wrappingMul v.wastePerSlot v.overrides.length

def wastedSize? (v : WastefulVirtual) : Option Nat := do
  let wastePerSlot ← Quantity.mul? v.bytesPerWord (1 + v.derivedTypes.length)
  Quantity.mul? wastePerSlot v.overrides.length

end WastefulVirtual

instance : Wasteful WastefulVirtual where
  wastedSize := WastefulVirtual.wastedSize

def comTypeNames : List String := [
  "IUnknown", "winrt::impl::abi<winrt::Windows::Foundation::IUnknown,void>::type"]

def comTemplates : List String := ["winrt::impl::producer<", "winrt::impl::root_implements<"]

def isComTypeName (name : String) : Bool :=
  name ∈ comTypeNames || comTemplates.any fun template => name.startsWith template

namespace Hierarchy

def isComType (h : Hierarchy) (name : String) : Bool :=
  isComTypeName name || (h.basesOf name).any isComTypeName

def isInherited (h : Hierarchy) (name function : String) : Bool :=
  (h.basesOf name).any fun base =>
    (h.functionsOf base).any fun f => f.isVirtualMember && f.name = function

def firstPassing (test : String → Bool) : Nat → List String → List String
  | 0, _ => []
  | _, [] => []
  | enough + 1, name :: names =>
    if test name then name :: firstPassing test enough names
    else firstPassing test (enough + 1) names

/--
The types derived from a type that override one of its functions with one that is not pure. No more
than two are searched for, because from two on the function is worth its slot.
-/
def overriders (h : Hierarchy) (name function : String) : List String :=
  firstPassing (fun type =>
      (h.functionsOf type).any fun f => f.isVirtualMember && !f.isPure && f.name = function)
    2 (h.derivedOf name)

def introducedBy (h : Hierarchy) (t : UserDefinedType) : List MemberFunction :=
  t.functions.filter fun f =>
    f.isVirtualNonDestructor && !h.isInherited t.name f.name && !(h.derivedOf t.name).isEmpty

def pureOverride? (h : Hierarchy) (t : UserDefinedType) (f : MemberFunction)
    : Option WastedOverride :=
  match h.overriders t.name f.name with
  | [type] => if f.isPure then some ⟨type, f.name⟩ else none
  | _ => none

def unusedVirtual? (h : Hierarchy) (t : UserDefinedType) (f : MemberFunction)
    : Option WastedOverride :=
  match h.overriders t.name f.name with
  | [] => if f.isPure then none else some ⟨t.name, f.name⟩
  | _ => none

def wasteOf (h : Hierarchy) (bytesPerWord : Nat) (t : UserDefinedType) : WastefulVirtual where
  typeName := t.name
  isComType := h.isComType t.name
  bytesPerWord := bytesPerWord
  derivedTypes := h.derivedOf t.name
  pureOverriddenOnce := (h.introducedBy t).filterMap (h.pureOverride? t)
  neverOverridden := (h.introducedBy t).filterMap (h.unusedVirtual? t)

def candidates (h : Hierarchy) : List UserDefinedType :=
  h.types.filter fun t =>
    (!(h.derivedOf t.name).isEmpty || !(h.basesOf t.name).isEmpty)
      && t.functions.any MemberFunction.isVirtualMember

end Hierarchy

namespace WastefulVirtual

/--
Finds the types of a snapshot that waste slots, with or without COM types. How sizes are measured
depends on the build of the program.
-/
def findBy {m : Type → Type} [Monad m] [MonadLiftT Pass m] (measure : WastefulVirtual → m Nat)
    (excludeComTypes : Bool) (s : Snapshot) : m (List WastefulVirtual) := do
  Pass.report (.begun "Discovering all user-defined types in the binary")
  let h ← Hierarchy.load s.userDefinedTypes
  let items ← Sweep.runIn .wastefulTypes h.candidates.length (fun sweep _ => sweep.advance 1)
    (fun items t => do
      let item := h.wasteOf s.bytesPerWord t
      let size ← measure item
      return if size = 0 || (excludeComTypes && item.isComType) then items else items ++ [item])
    [] List.length h.candidates
  Pass.log .debug s!"Found wasteful virtuals: items={items.length}"
  return items

def find (excludeComTypes : Bool) (s : Snapshot) : Pass (List WastefulVirtual) :=
  findBy (fun item => pure item.wastedSize) excludeComTypes s

def findChecked (excludeComTypes : Bool) (s : Snapshot) : OptionT Pass (List WastefulVirtual) :=
  findBy (fun item => .mk (pure item.wastedSize?)) excludeComTypes s

end WastefulVirtual

structure HierarchyChange where
  typeName : String
  wasteChange : Int
  deriving DecidableEq, Repr

structure OverrideChange where
  override : WastedOverride
  wasteChange : Int
  deriving DecidableEq, Repr

structure WastefulVirtualDiff where
  diff : Diff WastefulVirtual
  hierarchyChanges : List HierarchyChange
  overrideChanges : List OverrideChange
  deriving DecidableEq, Repr

namespace WastefulVirtualDiff

def lacking {α : Type} [DecidableEq α] (xs ys : List α) : List α :=
  xs.filter (· ∉ ys)

def changeAll (amount : Int) (overrides : List WastedOverride) : List OverrideChange :=
  overrides.map fun w => { override := w, wasteChange := amount }

/--
Explains the change of the waste of a type. Overrides that came or went are priced by the slots of
their own build. Types that came or went are priced by the overrides that stayed, so that nothing is
counted twice.
-/
def ofDiff (diff : Diff WastefulVirtual) : WastefulVirtualDiff :=
  match diff with
  | .afterOnly after =>
    { diff
      hierarchyChanges := []
      overrideChanges := changeAll (Quantity.toSigned after.wastePerSlot) after.overrides }
  | .beforeOnly before =>
    { diff
      hierarchyChanges := []
      overrideChanges := changeAll (-Quantity.toSigned before.wastePerSlot) before.overrides }
  | .both before after =>
    let gone := lacking before.overrides after.overrides
    let added := lacking after.overrides before.overrides
    let lost := Quantity.toSigned
      (Quantity.wrappingMul (before.overrides.length - gone.length) before.bytesPerWord)
    let gained := Quantity.toSigned
      (Quantity.wrappingMul (after.overrides.length - added.length) after.bytesPerWord)
    { diff
      hierarchyChanges :=
        (lacking before.derivedTypes after.derivedTypes).map (⟨·, -lost⟩)
          ++ (lacking after.derivedTypes before.derivedTypes).map (⟨·, gained⟩)
      overrideChanges :=
        changeAll (-Quantity.toSigned before.wastePerSlot) gone
          ++ changeAll (Quantity.toSigned after.wastePerSlot) added }

def typeName (d : WastefulVirtualDiff) : String :=
  d.diff.either.typeName

def isComType (d : WastefulVirtualDiff) : Bool :=
  d.diff.either.isComType

def wastedSizeDiff (d : WastefulVirtualDiff) : Int :=
  d.diff.wastedSizeDiff

def isUnchanged (d : WastefulVirtualDiff) : Bool :=
  match d.diff with
  | .both _ _ => d.wastedSizeDiff = 0 && d.hierarchyChanges.isEmpty && d.overrideChanges.isEmpty
  | _ => false

end WastefulVirtualDiff

def WastefulVirtual.diff (before after : List WastefulVirtual)
    : Except PairingError (List WastefulVirtualDiff) := do
  let pairs ← pairByKey typeName before after
  return (pairs.map WastefulVirtualDiff.ofDiff).filter fun d => !d.isUnchanged

end Footprint
