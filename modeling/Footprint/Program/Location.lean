import Footprint.Program.FileError
import Footprint.Program.Surroundings

namespace Footprint

inductive Location where
  | directory (position : Position)
  | file (name : String)
  | system (file : SystemFile)
  | reserved (cause : FileError)
  deriving DecidableEq, Repr

def nameLimit : Nat := 255

def pathLimit : Nat := 4095

def pathNames (path : String) : Except FileError (List String) :=
  if pathLimit < path.utf8ByteSize then .error .nameTooLong else .ok (path.splitOn "/")

namespace Position

def start (names : List String) : Position :=
  if 2 ≤ names.length && names.head? = some "" then root else own

def standard? (names : List String) (name : String) : Option Location :=
  if name ∈ Surroundings.directoryNames names then
    some (.directory (fromRoot (names ++ [name])))
  else
    match (Surroundings.links names).lookup name with
    | some target => some (.directory target)
    | none =>
      (Surroundings.fileNames names).findSome? fun (file, its) =>
        if name ∈ its then some (.system file) else none

def child (position : Position) (name : String) : Location :=
  match position with
  | own => .file name
  | fromRoot names =>
    (standard? names name).getD ((position.closed?.map .reserved).getD
      (.file ("/" ++ String.intercalate "/" (names ++ [name]))))

def lookUp (position : Position) (name : String) : Except FileError Location :=
  if name = "" || name = "." then
    .ok (.directory position)
  else if name = ".." then
    .ok (.directory position.parent)
  else if position.closed?.isNone && nameLimit < name.utf8ByteSize then
    .error .nameTooLong
  else
    .ok (position.child name)

end Position

end Footprint
