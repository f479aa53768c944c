import Footprint.Name.Piece
import Footprint.Snapshot.Record

/-!
This module contains the generic names of types and functions. Instantiations of one template share
a generic name, in which the arguments of the template are numbered: `Type<int>` is `Type<T1>`.
-/

namespace Footprint.Name

def placeholder (number : Nat) : List Char :=
  'T' :: (Nat.toDigits 10 number)

structure Numbering where
  assigned : List (List Char × Nat)
  used : Nat
  deriving DecidableEq, Repr

namespace Numbering

def empty : Numbering where
  assigned := []
  used := 0

def see (n : Numbering) (arg : List Char) : Numbering :=
  if (n.assigned.lookup arg).isSome then
    n
  else if arg.isEmpty then
    { n with used := n.used + 1 }
  else
    { assigned := n.assigned ++ [(arg, n.used + 1)], used := n.used + 1 }

def write (n : Numbering) (arg : List Char) : List Char :=
  match n.assigned.lookup arg with
  | some number => placeholder number
  | none => []

def seePiece (n : Numbering) : Piece → Numbering
  | .arguments args => args.foldl see n
  | _ => n

def seePieces (n : Numbering) (ps : List Piece) : Numbering :=
  ps.foldl seePiece n

def ofPieces (ps : List Piece) : Numbering :=
  empty.seePieces ps

end Numbering

def Piece.write (n : Numbering) : Piece → List Char
  | .plain c => [c]
  | .scope => [':', ':']
  | .arguments args => '<' :: List.intercalate [','] (args.map n.write) ++ ['>']

def writePieces (ps : List Piece) : List Char :=
  (dropLeadingScope ps).flatMap (Piece.write (.ofPieces ps))

def generic (name : List Char) : List Char :=
  writePieces (pieces name)

/--
Replaces every occurrence of a pattern from left to right. The first argument is how many
characters of the occurrence found last are still to be passed over.
-/
def replaceFrom (pattern replacement : List Char) : Nat → List Char → List Char
  | _, [] => []
  | pending + 1, _ :: cs => replaceFrom pattern replacement pending cs
  | 0, c :: cs =>
    if pattern.isPrefixOf (c :: cs) then
      replacement ++ replaceFrom pattern replacement (pattern.length - 1) cs
    else
      c :: replaceFrom pattern replacement 0 cs

def replaceAll (pattern replacement text : List Char) : List Char :=
  replaceFrom pattern replacement 0 text

/--
How the type of a function argument is written: as its number if it is an argument of the template,
otherwise with the template arguments that occur in it replaced one after another.
-/
def Numbering.writeType (n : Numbering) (type : List Char) : List Char :=
  match n.assigned.lookup type with
  | some number => placeholder number
  | none =>
    n.assigned.foldl (fun type (arg, number) => replaceAll arg (placeholder number) type) type

def genericType (name : String) : String :=
  .ofList (generic name.toList)

def genericFunction (f : TemplatedFunction) : String :=
  let ps := pieces f.name.toList
  let n := Numbering.ofPieces ps
  let types := f.argumentTypes.map fun type => n.writeType type.toList
  .ofList <| writePieces ps ++ '(' :: List.intercalate [',', ' '] types ++ [')']
    ++ (if f.isConst then " const".toList else [])
    ++ (if f.isVolatile then " volatile".toList else [])

end Footprint.Name
