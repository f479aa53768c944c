import Footprint.Program
import Footprint.Program.Location
import Footprint.Roster

/-!
This module contains a directory as a value and runs of the program inside it, so that what a run
leaves behind can be compared with what was there before.
-/

namespace Footprint

/--
The files that a run can read and write, those of its own directory by their names and others by
their paths. One whose bytes are no text holds `none`.
-/
abbrev Directory := Roster String (Option String)

def SystemFile.read : SystemFile → Except FileError String
  | null | full | input | output | messages | record => .ok ""
  | terminal => .error .noDevice
  | tool | program => .error .notText

namespace Directory

def obstacle (d : Directory) : Location → FileError
  | .file name => if (d.find? name).isSome then .notDirectory else .notFound
  | .system _ => .notDirectory
  | .directory _ | .reserved _ => .notFound

def follow (d : Directory) (position : Position) : List String → Except FileError Location
  | [] => .ok (.directory position)
  | name :: rest =>
    match position.lookUp name with
    | .error e => .error e
    | .ok (.directory inner) => d.follow inner rest
    | .ok location => if rest.isEmpty then .ok location else .error (d.obstacle location)

def locate (d : Directory) (path : String) : Except FileError Location := do
  let names ← pathNames path
  d.follow (.start names) names

/--
What a path leads to where a file is to be created. A name with slashes behind it could only be a
directory, so that it is not even looked up.
-/
def locateNew (d : Directory) (path : String) : Except FileError Location := do
  let names ← pathNames path
  if names.getLast? = some "" then
    let parents := (names.reverse.dropWhile (· = "")).tail.reverse
    d.follow (.start names) (parents ++ [""])
  else
    d.follow (.start names) names

def read (d : Directory) (path : String) : Except FileError String := do
  match ← d.locate path with
  | .directory _ => .error .isDirectory
  | .reserved _ => .error .notFound
  | .system file => file.read
  | .file name =>
    match d.find? name with
    | none => .error .notFound
    | some none => .error .notText
    | some (some text) => .ok text

end Directory

structure Session where
  directory : Directory
  printed : String := ""
  told : String := ""
  deriving DecidableEq, Repr

namespace Session

def putInSystem (s : Session) (text : String) : SystemFile → Except WriteError Session
  | .full => .error (.notWritten .noSpace)
  | .output => .ok { s with printed := s.printed ++ text }
  | .messages => .ok { s with told := s.told ++ text }
  | .terminal => .error (.notCreated .noDevice)
  | .program => .error (.notCreated .busy)
  | .null | .input | .record | .tool => .ok s

def put (s : Session) (text : String) : Location → Except WriteError Session
  | .directory _ => .error (.notCreated .isDirectory)
  | .file name => .ok { s with directory := s.directory.insert name (some text) }
  | .system file => s.putInSystem text file
  | .reserved cause => .error (.notCreated cause)

def read (path : String) : StateM Session (Except FileError String) := do
  return (← get).directory.read path

def write (path text : String) : StateM Session (Except WriteError Unit) := do
  let s ← get
  match s.directory.locateNew path with
  | .error e => return .error (.notCreated e)
  | .ok location =>
    match s.put text location with
    | .error e => return .error e
    | .ok next => do
      set next
      return .ok ()

def print (text : String) : StateM Session Unit :=
  modify fun s => { s with printed := s.printed ++ text ++ "\n" }

def tell (text : String) : StateM Session Unit :=
  modify fun s => { s with told := s.told ++ text }

instance : Host (StateM Session) where
  read := read
  write := write
  print := print
  tell := tell

end Session

def Program.runIn (d : Directory) (commandLine : List String) : Outcome × Session :=
  (Program.run commandLine : StateM Session Outcome).run { directory := d }

end Footprint
