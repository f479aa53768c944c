import Footprint.Pass

namespace Footprint

structure Monitor where
  /-- The number of the report on which it cancels. Zero stands for canceling from the start. -/
  cancelAt : Option Nat
  received : List Event
  reportCount : Nat
  canceled : Bool
  deriving DecidableEq, Repr

namespace Monitor

def start (cancelAt : Option Nat) : Monitor where
  cancelAt := cancelAt
  received := []
  reportCount := 0
  canceled := cancelAt = some 0

def receive (m : Monitor) (e : Event) : Monitor :=
  match e with
  | .progress _ =>
    { m with
      received := e :: m.received
      reportCount := m.reportCount + 1
      canceled := m.canceled || m.cancelAt = some (m.reportCount + 1) }
  | .log _ => { m with received := e :: m.received }

def follow (m : Monitor) : List Step → Bool × Monitor
  | [] => (true, m)
  | .checkpoint :: steps => if m.canceled then (false, m) else m.follow steps
  | .event e :: steps => (m.receive e).follow steps

def events (m : Monitor) : List Event :=
  m.received.reverse

def reports (m : Monitor) : List Progress :=
  m.events.filterMap fun
    | .progress p => some p
    | .log _ => none

def logLines (m : Monitor) : List LogLine :=
  m.events.filterMap fun
    | .progress _ => none
    | .log line => some line

def fullLog (m : Monitor) : List LogLine :=
  m.events.map fun
    | .progress p => p.logLine
    | .log line => line

end Monitor

def Pass.run {α : Type} (p : Pass α) (m : Monitor) : Except AnalysisError α × Monitor :=
  match m.follow p.steps with
  | (true, m) => (p.result, m)
  | (false, m) => (.error .canceled, m)

end Footprint
