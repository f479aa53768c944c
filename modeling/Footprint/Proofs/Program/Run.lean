import Footprint.Proofs.Except
import Footprint.Proofs.Program.FileSystem

namespace Footprint

namespace Program

section Reports

variable {read : String → Except FileError String} {options : AnalysisOptions} {input : Input}
  {path : String} {s : Snapshot} {r : Report}

end Reports

section Steps

open FileSystem

variable {σ : Type} [Host (StateM σ)] {fs : FileSystem σ} {F : fs.Files} {path : String}

end Steps

end Program
end Footprint
