import Footprint.CommandLine

namespace Footprint

inductive Word where
  | terminator
  | long (name : String) (value : Option String)
  | short (letters : List Char)
  | plain (text : String)
  deriving DecidableEq, Repr

def Word.ofArgument (argument : String) : Word :=
  match argument.toList with
  | ['-', '-'] => terminator
  | '-' :: '-' :: rest =>
    let name := rest.takeWhile (· ≠ '=')
    let value :=
      match rest.dropWhile (· ≠ '=') with
      | [] => none
      | _ :: value => some (.ofList value)
    long (.ofList name) value
  | '-' :: letter :: letters => short (letter :: letters)
  | _ => plain argument

inductive Pending where
  | paths (paths : List String)
  | setting (s : Setting) (value : Option String)
  deriving DecidableEq, Repr

structure CommandReader where
  arguments : Arguments := {}
  pending : Option Pending := none
  onlyPaths : Bool := false
  deriving DecidableEq, Repr

def readCount? (text : String) : Option Nat :=
  let digits :=
    match text.toList with
    | '+' :: digits => digits
    | digits => digits
  let n := Nat.ofDigitChars 10 digits 0
  if !digits.isEmpty && digits.all Char.isDigit && n < wordLimit then some n else none

def readLevel? (text : String) : Option LogLevel :=
  LogLevel.all.find? (·.choice = text)

def flagLimit : Nat := 255

namespace Arguments

def has (a : Arguments) : Setting → Bool
  | .before => a.before.isSome
  | .after => a.after.isSome
  | .exampleSymbols => a.exampleSymbols.isSome
  | .maxWastedSize => a.maxWastedSize.isSome
  | .logLevel => a.logLevel.isSome

def setValue (a : Arguments) (s : Setting) (value : String) : Except UsageError Arguments :=
  match s with
  | .before =>
    if value.isEmpty then .error (.invalidValue s.name value)
    else .ok { a with before := some value }
  | .after =>
    if value.isEmpty then .error (.invalidValue s.name value)
    else .ok { a with after := some value }
  | .exampleSymbols =>
    match readCount? value with
    | some n => .ok { a with exampleSymbols := some n }
    | none => .error (.invalidNumber s.name value)
  | .maxWastedSize =>
    match readCount? value with
    | some n => .ok { a with maxWastedSize := some n }
    | none => .error (.invalidNumber s.name value)
  | .logLevel =>
    match readLevel? value with
    | some level => .ok { a with logLevel := some level }
    | none => .error (.invalidValue s.name value)

def set (a : Arguments) (s : Setting) : Option String → Except UsageError Arguments
  | none => .error (.invalidValue s.name "")
  | some value => if a.has s then .error (.repeatedArgument s.name) else a.setValue s value

def addPaths (a : Arguments) (paths : List String) : Except UsageError Arguments :=
  if 2 < paths.length then .error (.tooManyValues "PATH")
  else if "" ∈ paths then .error (.invalidValue "PATH" "")
  else .ok { a with paths := a.paths ++ paths }

def raise (a : Arguments) : Flag → Except Stop Arguments
  | .excludeComTypes =>
    if a.excludeComTypes then .error (.usage (.repeatedArgument Flag.excludeComTypes.name))
    else .ok { a with excludeComTypes := true }
  | .verbose => .ok { a with verbose := min (a.verbose + 1) flagLimit }
  | .quiet => .ok { a with quiet := min (a.quiet + 1) flagLimit }
  | .help => .error .help
  | .version => .error .version

end Arguments

def usable {α : Type} : Except UsageError α → Except Stop α
  | .ok a => .ok a
  | .error e => .error (.usage e)

namespace CommandReader

def resolve (r : CommandReader) : Except UsageError CommandReader := do
  let arguments ←
    match r.pending with
    | none => pure r.arguments
    | some (.paths paths) => r.arguments.addPaths paths
    | some (.setting s value) => r.arguments.set s value
  return { r with arguments, pending := none }

def takeSetting (r : CommandReader) (s : Setting) : Option String → Except UsageError CommandReader
  | none => do
    let r ← r.resolve
    return { r with pending := some (.setting s none) }
  | some value => do
    let r ← r.resolve
    return { r with arguments := ← r.arguments.set s (some value) }

def takeFlag (r : CommandReader) (f : Flag) : Except Stop CommandReader := do
  let r ← usable r.resolve
  return { r with arguments := ← r.arguments.raise f }

def takeLetters (r : CommandReader) : List Char → Except Stop CommandReader
  | [] => .ok r
  | letter :: letters =>
    match Flag.all.find? (·.letter? = some letter) with
    | some f => do
      let r ← r.takeFlag f
      r.takeLetters letters
    | none => .error (.usage (.unknownArgument s!"-{letter}"))

def takeName (r : CommandReader) (name : String) (value : Option String)
    : Except Stop CommandReader :=
  match Setting.all.find? (·.name = name), Flag.all.find? (·.name = name), value with
  | some s, _, _ => usable (r.takeSetting s value)
  | none, some f, none => r.takeFlag f
  | none, some f, some _ => .error (.usage (.tooManyValues f.name))
  | none, none, _ => .error (.usage (.unknownArgument s!"--{name}"))

/-- Takes a path. Paths that directly follow each other are looked at together. -/
def takePath (r : CommandReader) (path : String) : Except UsageError CommandReader :=
  match r.pending with
  | some (.paths paths) => .ok { r with pending := some (.paths (paths ++ [path])) }
  | _ => do
    let r ← r.resolve
    return { r with pending := some (.paths [path]) }

def takeText (r : CommandReader) (text : String) : Except UsageError CommandReader :=
  match r.pending with
  | some (.setting s none) => .ok { r with pending := some (.setting s (some text)) }
  | _ => r.takePath text

def take (r : CommandReader) (argument : String) : Except Stop CommandReader :=
  if r.onlyPaths then
    usable (r.takePath argument)
  else
    match Word.ofArgument argument with
    | .terminator => .ok { r with onlyPaths := true }
    | .long name value => r.takeName name value
    | .short letters => r.takeLetters letters
    | .plain text => usable (r.takeText text)

def finish (r : CommandReader) : Except UsageError Arguments := do
  let a := (← r.resolve).arguments
  if a.paths.isEmpty then
    throw (.missingArgument "PATH")
  if a.before.isSome ∧ a.after.isNone then
    throw (.missingArgument Setting.after.name)
  if a.after.isSome ∧ a.before.isNone then
    throw (.missingArgument Setting.before.name)
  return a

end CommandReader

def Arguments.parse (commandLine : List String) : Except Stop Arguments := do
  let r ← commandLine.foldlM CommandReader.take {}
  usable r.finish

end Footprint
