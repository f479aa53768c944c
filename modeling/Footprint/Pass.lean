import Footprint.Contributions
import Footprint.Diff
import Footprint.Log

/-!
This module contains analysis passes. A pass consists of the steps that an observer can see and of
its result. The steps are the checkpoints at which it can be canceled and the events that it sends
on its way, so what a pass computes does not depend on whether it is observed or canceled.
-/

namespace Footprint

inductive SanityFault where
  | contributionOverflow (place : Place)
  | copiesOverflow (copies : Nat) (name : String)
  | codeOverflow (function : String)
  | overfull (kind : ContainerKind) (place : Place) (contributed size : Nat)
  | unbalanced (kind : ContainerKind) (name : String) (sizeDiff sections coffGroups : Int)
  deriving DecidableEq, Repr

def SanityFault.message : SanityFault → String
  | contributionOverflow place => s!"size of contribution to {place.name} overflows"
  | copiesOverflow copies name => s!"size of {copies} copies of {name} overflows"
  | codeOverflow function => s!"unique code size of {function} overflows"
  | overfull kind place contributed size =>
    let whole :=
      match place with
      | .binarySection _ => "section"
      | .coffGroup _ => "group"
    s!"{kind.title} contributions to {place.label} sum to {contributed}, {whole} size is {size}"
  | unbalanced kind name sizeDiff sections coffGroups =>
    s!"{kind.title} {name} changed by {sizeDiff}, its sections by {sections}, "
      ++ s!"its COFF groups by {coffGroups}"

inductive AnalysisError where
  | canceled
  | pairing (cause : PairingError)
  | sanity (fault : SanityFault)
  deriving DecidableEq, Repr

def AnalysisError.message : AnalysisError → String
  | canceled => "Analysis was canceled"
  | pairing _ => "Failed to pair before and after entities"
  | sanity fault => s!"Sanity check failed: {fault.message}"

def AnalysisError.cause? : AnalysisError → Option String
  | pairing cause => some cause.message
  | _ => none

inductive Task where
  | compilands
  | libs
  | sourceFiles
  | duplicateData
  | foldability
  | baseTypes
  | derivedTypes
  | wastefulTypes
  | libDiffs
  | compilandDiffs
  | sourceFileDiffs
  deriving DecidableEq, Repr

def Task.label : Task → String
  | compilands => "Aggregating compiland contributions"
  | libs => "Aggregating lib contributions"
  | sourceFiles => "Aggregating source file contributions"
  | duplicateData => "Enumerating duplicate data"
  | foldability => "Exploring template foldability"
  | baseTypes => "Loading base types"
  | derivedTypes => "Loading derived types"
  | wastefulTypes => "Analyzing user-defined types for waste"
  | libDiffs => "Diffing libs"
  | compilandDiffs => "Diffing compilands"
  | sourceFileDiffs => "Diffing source files"

inductive Progress where
  | begun (activity : String)
  | underway (task : Task) (processed total : Nat)
  | finished (task : Task) (processed total found : Nat)
  deriving DecidableEq, Repr

namespace Progress

def message : Progress → String
  | begun activity => activity
  | underway task processed total => s!"{task.label}: {processed}/{total}"
  | finished task processed total found =>
    s!"{task.label}: {processed}/{total} processed, {found} found"

def current : Progress → Nat
  | begun _ => 0
  | underway _ processed _ => processed
  | finished _ _ total _ => total

def total? : Progress → Option Nat
  | begun _ => none
  | underway _ _ total => some total
  | finished _ _ total _ => some total

def logLine (p : Progress) : LogLine where
  level := .debug
  message :=
    match p.total? with
    | some total => s!"Progress: {p.message} (current={p.current}, total={total})"
    | none => s!"Progress: {p.message} (current={p.current})"

end Progress

inductive Event where
  | progress (report : Progress)
  | log (line : LogLine)
  deriving DecidableEq, Repr

inductive Step where
  | checkpoint
  | event (e : Event)
  deriving DecidableEq, Repr

structure Pass (α : Type) where
  steps : List Step
  result : Except AnalysisError α

namespace Pass

variable {α β : Type}

protected def pure (a : α) : Pass α where
  steps := []
  result := .ok a

protected def bind (p : Pass α) (next : α → Pass β) : Pass β :=
  match p.result with
  | .ok a => ⟨p.steps ++ (next a).steps, (next a).result⟩
  | .error e => ⟨p.steps, .error e⟩

instance : Monad Pass where
  pure := Pass.pure
  bind := Pass.bind

def ofExcept (result : Except AnalysisError α) : Pass α where
  steps := []
  result := result

instance : MonadLift (Except AnalysisError) Pass where
  monadLift := ofExcept

def step (s : Step) : Pass Unit where
  steps := [s]
  result := .ok ()

def checkpoint : Pass Unit :=
  step .checkpoint

def report (p : Progress) : Pass Unit :=
  step (.event (.progress p))

def log (level : LogLevel) (message : String) : Pass Unit :=
  step (.event (.log ⟨level, message⟩))

theorem result_pure (a : α) : (pure a : Pass α).result = .ok a :=
  rfl

theorem result_bind (p : Pass α) (next : α → Pass β)
    : (p >>= next).result = p.result.bind fun a => (next a).result := by
  show (Pass.bind p next).result = _
  unfold Pass.bind
  cases h : p.result <;> rfl

end Pass

def reportInterval : Nat := 100

structure Sweep where
  task : Task
  total : Nat
  processed : Nat := 0
  nextReport : Nat := reportInterval
  deriving DecidableEq, Repr

namespace Sweep

def followingReport (nextReport processed : Nat) : Nat :=
  nextReport + reportInterval * ((processed - nextReport) / reportInterval + 1)

def advance (s : Sweep) (count : Nat) : Pass Sweep := do
  Pass.checkpoint
  let processed := s.processed + count
  if s.nextReport ≤ processed then
    Pass.report (.underway s.task processed s.total)
    return { s with processed, nextReport := followingReport s.nextReport processed }
  else
    return { s with processed }

def advanceEach (s : Sweep) : Nat → Pass Sweep
  | 0 => pure s
  | n + 1 => do
    let s ← s.advance 1
    s.advanceEach n

def finish (s : Sweep) (found : Nat) : Pass Unit :=
  Pass.report (.finished s.task s.processed s.total found)

variable {α σ : Type}

/--
Goes through a list of items and accounts for each of them, as `visit` tells, before it is taken
into what has been made of the earlier ones.
-/
def goThrough {m : Type → Type} [Monad m] (visit : Sweep → α → m Sweep) (take : σ → α → m σ)
    : Sweep → σ → List α → m (Sweep × σ)
  | sweep, made, [] => pure (sweep, made)
  | sweep, made, item :: items => do
    let sweep ← visit sweep item
    let made ← take made item
    goThrough visit take sweep made items

def runIn {m : Type → Type} [Monad m] [MonadLiftT Pass m] (task : Task) (total : Nat)
    (visit : Sweep → α → Pass Sweep) (take : σ → α → m σ) (start : σ) (found : σ → Nat)
    (items : List α) : m σ := do
  let (sweep, made) ←
    goThrough (fun sweep item => (visit sweep item : m Sweep)) take { task, total } start items
  sweep.finish (found made)
  return made

def run (task : Task) (total : Nat) (visit : Sweep → α → Pass Sweep)
    (take : σ → α → Except AnalysisError σ) (start : σ) (found : σ → Nat) (items : List α)
    : Pass σ :=
  runIn task total visit (fun made item => Pass.ofExcept (take made item)) start found items

def mapEach (task : Task) (make : α → Except AnalysisError σ) (items : List α) : Pass (List σ) := do
  let made ← run task items.length (fun sweep _ => sweep.advance 1)
    (fun (made : List σ) item => (make item).map (· :: made)) [] List.length items
  return made.reverse

end Sweep

end Footprint
