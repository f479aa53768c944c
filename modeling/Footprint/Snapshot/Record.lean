/-!
This module contains the records of a snapshot: what was read out of one build of a binary. Sizes
are in bytes, a size being what a thing takes up in the file and a virtual size what it takes up in
memory.
-/

namespace Footprint

structure CoffGroupRecord where
  name : String
  size : Nat := 0
  virtualSize : Nat := 0
  deriving DecidableEq, Repr

structure SectionRecord where
  name : String
  size : Nat := 0
  virtualSize : Nat := 0
  coffGroups : List CoffGroupRecord := []
  deriving DecidableEq, Repr

structure ContributionRecord where
  sectionName : String
  coffGroup : String
  size : Nat := 0
  virtualSize : Nat := 0
  deriving DecidableEq, Repr

structure CompilandRecord where
  name : String
  lib : String
  contributions : List ContributionRecord := []
  deriving DecidableEq, Repr

structure SourceFileRecord where
  name : String
  contributions : List ContributionRecord := []
  deriving DecidableEq, Repr

structure Symbol where
  name : String
  rva : Nat
  size : Nat := 0
  virtualSize : Nat := 0
  deriving DecidableEq, Repr

structure StaticData where
  name : String
  rva : Nat
  size : Nat := 0
  virtualSize : Nat := 0
  compiland : String
  bytes : List UInt8 := []
  deriving DecidableEq, Repr

/--
A function instantiated from a template, under its fully qualified name. The linker merged the body
of a folded function into another one, whose address it shares.
-/
structure TemplatedFunction where
  name : String
  argumentTypes : List String := []
  isConst : Bool := false
  isVolatile : Bool := false
  rva : Nat
  size : Nat := 0
  isFolded : Bool := false
  blockCount : Nat := 1
  code : List UInt8 := []
  deriving DecidableEq, Repr

structure MemberFunction where
  name : String
  isVirtual : Bool := false
  isPure : Bool := false
  isStatic : Bool := false
  deriving DecidableEq, Repr

structure UserDefinedType where
  name : String
  baseTypes : List String := []
  functions : List MemberFunction := []
  deriving DecidableEq, Repr

structure Snapshot where
  binary : String := ""
  bytesPerWord : Nat := 8
  sections : List SectionRecord := []
  compilands : List CompilandRecord := []
  sourceFiles : List SourceFileRecord := []
  symbols : List Symbol := []
  staticData : List StaticData := []
  templatedFunctions : List TemplatedFunction := []
  userDefinedTypes : List UserDefinedType := []
  deriving DecidableEq, Repr

namespace MemberFunction

def isVirtualMember (f : MemberFunction) : Bool :=
  f.isVirtual && !f.isStatic

def isVirtualNonDestructor (f : MemberFunction) : Bool :=
  f.isVirtualMember && !f.name.contains '~'

end MemberFunction

end Footprint
