import Footprint.Analysis
import Footprint.Log
import Footprint.Text.Quoted

namespace Footprint

inductive Setting where
  | before
  | after
  | exampleSymbols
  | maxWastedSize
  | logLevel
  deriving DecidableEq, Repr

namespace Setting

def all : List Setting := [before, after, exampleSymbols, maxWastedSize, logLevel]

def name : Setting → String
  | before => "before"
  | after => "after"
  | exampleSymbols => "example-symbols"
  | maxWastedSize => "max-wasted-size"
  | logLevel => "log-level"

end Setting

inductive Flag where
  | excludeComTypes
  | verbose
  | quiet
  | help
  | version
  deriving DecidableEq, Repr

namespace Flag

def all : List Flag := [excludeComTypes, verbose, quiet, help, version]

def name : Flag → String
  | excludeComTypes => "exclude-com-types"
  | verbose => "verbose"
  | quiet => "quiet"
  | help => "help"
  | version => "version"

def letter? : Flag → Option Char
  | excludeComTypes => none
  | verbose => some 'v'
  | quiet => some 'q'
  | help => some 'h'
  | version => some 'V'

end Flag

inductive UsageError where
  | missingArgument (name : String)
  | unknownArgument (argument : String)
  | invalidValue (name value : String)
  | invalidNumber (name value : String)
  | tooManyValues (name : String)
  | repeatedArgument (name : String)
  deriving DecidableEq, Repr

def UsageError.message : UsageError → String
  | missingArgument name => s!"the argument {name} is required"
  | unknownArgument argument => s!"unexpected argument {argument}"
  | invalidValue name value => s!"{Text.quoted value} is no value of {name}"
  | invalidNumber name value => s!"{Text.quoted value} is no number for {name}"
  | tooManyValues name => s!"{name} has too many values"
  | repeatedArgument name => s!"{name} is given more than once"

inductive Stop where
  | help
  | version
  | usage (error : UsageError)
  deriving DecidableEq, Repr

structure Arguments where
  paths : List String := []
  before : Option String := none
  after : Option String := none
  excludeComTypes : Bool := false
  exampleSymbols : Option Nat := none
  maxWastedSize : Option Nat := none
  logLevel : Option LogLevel := none
  verbose : Nat := 0
  quiet : Nat := 0
  deriving DecidableEq, Repr

inductive Input where
  | single (snapshot report : String)
  | diff (before after report : String)
  deriving DecidableEq, Repr

def Input.report : Input → String
  | single _ report => report
  | diff _ _ report => report

inductive InputError where
  | notReportAlone
  | notSnapshotAndReport
  deriving DecidableEq, Repr

def InputError.message : InputError → String
  | notReportAlone => "Expected only the report path when using --before/--after"
  | notSnapshotAndReport => "Expected a snapshot path and a report path"

namespace Arguments

def input (a : Arguments) : Except InputError Input :=
  match a.before, a.after, a.paths with
  | some before, some after, [report] => .ok (.diff before after report)
  | some _, some _, _ => .error .notReportAlone
  | none, none, [snapshot, report] => .ok (.single snapshot report)
  | _, _, _ => .error .notSnapshotAndReport

def options (a : Arguments) : AnalysisOptions :=
  { excludeComTypes := a.excludeComTypes
    exampleSymbols := a.exampleSymbols.getD ({} : AnalysisOptions).exampleSymbols }

def baseLevel (a : Arguments) : LogLevel :=
  a.logLevel.getD .info

def level (a : Arguments) : LogLevel :=
  a.baseLevel.shift a.verbose a.quiet

end Arguments

end Footprint
