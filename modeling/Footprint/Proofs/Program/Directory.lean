import Footprint.Program.Directory
import Footprint.Proofs.Except
import Footprint.Proofs.Program.FileSystem
import Footprint.Proofs.Roster

namespace Footprint

namespace Directory

variable {d : Directory} {position : Position} {names : List String} {name path text : String}
  {location : Location}

section Follow

end Follow

def fileAt? (d : Directory) (path : String) : Option String :=
  match d.locateNew path with
  | .ok (.file name) => some name
  | _ => none

end Directory

end Footprint
