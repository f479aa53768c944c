import Footprint.CommandLine.Reader
import Footprint.Json.Printer
import Footprint.Program.FileError
import Footprint.Report.Consistency
import Footprint.Report.Document
import Footprint.Report.Summary
import Footprint.Snapshot.Load

/-!
This module contains the program: it reads snapshots, writes the report on them to a file, prints
its summary and fails if the report does not pass its checks. What it runs on is left open. It is
the build of the program that does not check its arithmetic, so that 64 bits wrap around.
-/

namespace Footprint

/-- What the program runs on: files that hold texts, an output for results and one for messages. -/
class Host (m : Type → Type) where
  read : String → m (Except FileError String)
  write : String → String → m (Except WriteError Unit)
  print : String → m Unit
  tell : String → m Unit

inductive RunError where
  | input (error : InputError)
  | unreadable (path : String) (cause : FileError)
  | refused (path : String) (cause : SnapshotError)
  | analysis (binary : String) (cause : AnalysisError)
  | comparison (before after : String) (cause : AnalysisError)
  | unwritable (path : String) (cause : WriteError)
  | invalid (cause : ReportFault)
  deriving DecidableEq, Repr

namespace RunError

def message : RunError → String
  | input error => error.message
  | unreadable path _ => s!"Failed to load snapshot: {path}"
  | refused path _ => s!"Failed to load snapshot: {path}"
  | analysis binary _ => s!"Failed to analyze snapshot: {binary}"
  | comparison before after _ => s!"Failed to diff snapshots: {before} -> {after}"
  | unwritable path (.notCreated _) => s!"Failed to create JSON output file: {path}"
  | unwritable path (.notWritten _) => s!"Failed to serialize report to JSON: {path}"
  | invalid cause => cause.message

def causes : RunError → List String
  | input _ => []
  | unreadable path cause => [s!"Failed to read snapshot: {Text.quoted path}", cause.message]
  | refused _ (.malformed path) =>
    [SnapshotError.message (.malformed path), "the document holds no snapshot"]
  | refused _ cause => [cause.message]
  | analysis _ cause => cause.message :: cause.cause?.toList
  | comparison _ _ cause => cause.message :: cause.cause?.toList
  | unwritable _ (.notCreated cause) | unwritable _ (.notWritten cause) => [cause.message]
  | invalid _ => []

def causeLines : List String → List String
  | [cause] => [Text.hanging "    " "    " cause]
  | causes => causes.zipIdx.map fun (cause, i) => Text.hanging s!"    {i}: " "       " cause

def lines (e : RunError) : List String :=
  let causes := e.causes
  s!"Error: {e.message}"
    :: if causes.isEmpty then [] else ["", "Caused by:"] ++ causeLines causes

end RunError

inductive Outcome where
  | completed
  | failed (error : RunError)
  | answered
  | misused (error : UsageError)
  deriving DecidableEq, Repr

def Outcome.exitCode : Outcome → Nat
  | completed => 0
  | failed _ => 1
  | answered => 0
  | misused _ => 2

namespace Program

def name : String := "size_inspector"

def version : String := "0.1.0"

def usage : List String := [
  s!"Usage: {name} [OPTIONS] <SNAPSHOT> <REPORT>",
  s!"       {name} [OPTIONS] --before <BEFORE> --after <AFTER> <REPORT>"]

def help : List String :=
  ["Analyzes binary size snapshots for contributions and waste, or diffs two builds", ""]
    ++ usage ++ ["", "Options:"]
    ++ Setting.all.map (fun s => s!"  --{s.name} <VALUE>")
    ++ Flag.all.map (fun f => s!"  --{f.name}")

variable {m : Type → Type} [Monad m] [Host m]

def tellLine (text : String) : m Unit :=
  Host.tell (text ++ "\n")

def log (limit : LogLevel) (line : LogLine) : m Unit :=
  if limit.admits line.level then Host.tell line.text else pure ()

def logInfo (limit : LogLevel) (message : String) : m Unit :=
  log limit { level := .info, message }

def load (limit : LogLevel) (path : String) : m (Except RunError Snapshot) := do
  logInfo limit s!"Loading snapshot: snapshot={path}"
  match ← Host.read path with
  | .error e => return .error (.unreadable path e)
  | .ok document =>
    match Snapshot.parse path document with
    | .error e => return .error (.refused path e)
    | .ok s => do
      logInfo limit (s!"Loading completed: snapshot={path}, binary={s.binary}, "
        ++ s!"compilands={s.compilands.length}, symbols={s.symbols.length}")
      return .ok s

def observe {α : Type} (limit : LogLevel) (outcome : Except AnalysisError α × Monitor)
    : m (Except AnalysisError α) := do
  outcome.2.fullLog.forM (log limit)
  return outcome.1

def makeReport (limit : LogLevel) (options : AnalysisOptions)
    : Input → m (Except RunError Report)
  | .single path _ => do
    match ← load limit path with
    | .error e => return .error e
    | .ok s =>
      match ← observe limit ((s.analyze options byteSimilarity).run (.start none)) with
      | .error e => return .error (.analysis s.binary e)
      | .ok a => return .ok (.ofAnalysis a)
  | .diff beforePath afterPath _ => do
    match ← load limit beforePath with
    | .error e => return .error e
    | .ok before =>
      match ← load limit afterPath with
      | .error e => return .error e
      | .ok after =>
        match ← observe limit
            (compareSnapshots before after options byteSimilarity (.start none)) with
        | .error e => return .error (.comparison before.binary after.binary e)
        | .ok c => return .ok (.ofComparison c)

def publish (limit : LogLevel) (a : Arguments) (path : String) (r : Report)
    : m (Except RunError Unit) := do
  logInfo limit s!"Writing report to file: file={path}"
  match ← Host.write path r.toJson.pretty with
  | .error e => return .error (.unwritable path e)
  | .ok () =>
    r.summaryLines a.options.exampleSymbols |>.forM Host.print
    r.inconsistencies.forM fun i => do
      match i.logMessage? with
      | some message => log limit { level := .debug, message }
      | none => pure ()
      tellLine i.diagnostic
    return (r.validate a.maxWastedSize).mapError .invalid

def execute (a : Arguments) : m (Except RunError Unit) := do
  match a.input with
  | .error e => return .error (.input e)
  | .ok input =>
    match ← makeReport a.level a.options input with
    | .error e => return .error e
    | .ok r => publish a.level a input.report r

def run (commandLine : List String) : m Outcome := do
  match Arguments.parse commandLine with
  | .error .help =>
    help.forM Host.print
    return .answered
  | .error .version =>
    Host.print s!"{name} {version}"
    return .answered
  | .error (.usage e) =>
    ([s!"error: {e.message}", ""] ++ usage).forM tellLine
    return .misused e
  | .ok a =>
    match ← execute a with
    | .ok () => return .completed
    | .error e => do
      e.lines.forM tellLine
      return .failed e

end Program

end Footprint
