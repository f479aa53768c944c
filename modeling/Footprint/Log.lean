import Footprint.Text.Controls

namespace Footprint

def Text.hanging (first others text : String) : String :=
  first ++ String.intercalate ("\n" ++ others) (text.splitOn "\n")

inductive LogLevel where
  | error
  | warn
  | info
  | debug
  | trace
  deriving DecidableEq, Repr

namespace LogLevel

def all : List LogLevel := [error, warn, info, debug, trace]

def rank : LogLevel → Nat
  | error => 0
  | warn => 1
  | info => 2
  | debug => 3
  | trace => 4

def label : LogLevel → String
  | error => "ERROR"
  | warn => "WARN"
  | info => "INFO"
  | debug => "DEBUG"
  | trace => "TRACE"

def choice : LogLevel → String
  | error => "error"
  | warn => "warn"
  | info => "info"
  | debug => "debug"
  | trace => "trace"

def admits (limit level : LogLevel) : Bool :=
  level.rank ≤ limit.rank

def shift (level : LogLevel) (more fewer : Nat) : LogLevel :=
  let rank : Int := level.rank + more - fewer
  (all[rank.toNat]?).getD trace

end LogLevel

structure LogLine where
  level : LogLevel
  message : String
  deriving DecidableEq, Repr

/--
The line as it is written with its end, and with its level padded to five characters. Where the
message goes on over further lines, they are indented. What would control a terminal is left out,
which may take the end of the line away with it.
-/
def LogLine.text (line : LogLine) : String :=
  let label := line.level.label
  let blanks := String.ofList (List.replicate (5 - label.length) ' ')
  Text.withoutControls <|
    Text.hanging ("[" ++ label ++ blanks ++ "] ") "    " line.message ++ "\n"

end Footprint
