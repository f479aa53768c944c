import Footprint.Program

/-!
This module contains the program on the files and outputs of the system.
-/

namespace Footprint

/-- The error that the system numbers so. Some of its parts turn the sign of the number. -/
def FileError.ofCode (code : UInt32) (text : String) : FileError :=
  match (if code < 4096 then code else -code) with
  | 2 => .notFound
  | 6 => .noDevice
  | 13 => .notPermitted
  | 20 => .notDirectory
  | 21 => .isDirectory
  | 26 => .busy
  | 28 => .noSpace
  | 36 => .nameTooLong
  | code => .other s!"{text} (os error {code})"

def FileError.ofSystem : IO.Error → FileError
  | .noFileOrDirectory _ code text => .ofCode code text
  | .inappropriateType _ code text => .ofCode code text
  | .invalidArgument _ code text => .ofCode code text
  | .resourceExhausted _ code text => .ofCode code text
  | .permissionDenied _ code text => .ofCode code text
  | error => .other (toString error)

def attempt {α : Type} (action : IO α) : IO (Except FileError α) := do
  match ← action.toBaseIO with
  | .ok a => return .ok a
  | .error e => return .error (.ofSystem e)

instance : Host IO where
  read path := do
    match ← attempt (IO.FS.readBinFile path) with
    | .error e => return .error e
    | .ok bytes =>
      match String.fromUTF8? bytes with
      | some text => return .ok text
      | none => return .error .notText
  write path text := do
    match ← attempt (IO.FS.Handle.mk path .write) with
    | .error e => return .error (.notCreated e)
    | .ok file =>
      return (← attempt (do file.putStr text; file.flush)).mapError .notWritten
  print text := IO.println text
  tell text := IO.eprint text

end Footprint

def main (arguments : List String) : IO UInt32 := do
  let outcome ← Footprint.Program.run arguments
  return outcome.exitCode.toUInt32
