import Footprint.Name.Generic
import Footprint.Pass
import Footprint.Waste

/-!
This module contains the search for templates whose instantiations have similar code, and the
estimate of how much could be saved by folding them into one.
-/

namespace Footprint

/--
How alike the code of two functions is, from 0 for nothing in common to 1 for identical code. It is
told how many comparisons came before.
-/
abbrev Similarity := Nat → TemplatedFunction → TemplatedFunction → Float32

def toBinary32 (n : Nat) : Float32 :=
  n.toUInt64.toFloat32

def byteSimilarity : Similarity := fun _ first second =>
  let longer := max first.code.length second.code.length
  if longer = 0 then
    0
  else
    let matching := (first.code.zip second.code).countP fun (a, b) => a = b
    toBinary32 matching / toBinary32 longer

structure Foldability where
  templateName : String
  symbols : List TemplatedFunction
  uniqueSymbols : List TemplatedFunction
  totalSize : Nat
  wastedSize : Nat
  similarity : Float32
  deriving DecidableEq, Repr

instance : Entity Foldability where
  name := Foldability.templateName
  size := Foldability.totalSize
  virtualSize := Foldability.totalSize

instance : Wasteful Foldability where
  wastedSize := Foldability.wastedSize

namespace Foldability

def share (size : Nat) (ratio : Float32) : Nat :=
  (toBinary32 size * ratio).toUInt64.toNat

def make (templateName : String) (symbols uniqueSymbols : List TemplatedFunction) (totalSize : Nat)
    (similarity : Float32) : Foldability where
  templateName := templateName
  symbols := symbols
  uniqueSymbols := uniqueSymbols
  totalSize := totalSize
  wastedSize := share totalSize similarity
  similarity := similarity

def examples (f : Foldability) (count : Nat) : List String :=
  (f.symbols.take count).map (·.name)

def codeEnd (f : TemplatedFunction) : Nat :=
  Quantity.saturatingAdd f.rva f.size

def covers (f : TemplatedFunction) (rva : Nat) : Bool :=
  f.rva ≤ rva && rva < codeEnd f

def uniqueAmong (symbols : List TemplatedFunction) : List TemplatedFunction :=
  symbols.foldl
    (fun unique f =>
      if f.isFolded || unique.any (covers · f.rva) then unique else unique ++ [f])
    []

def codeSize (symbols unique : List TemplatedFunction) : Except AnalysisError Nat :=
  match Quantity.total? (unique.map fun f => codeEnd f - f.rva) with
  | some size => .ok size
  | none => .error (.sanity (.codeOverflow ((symbols.head?.map (·.name)).getD "")))

/--
The first function at each address and with each number of blocks, sorted by the number of blocks.
Functions with equally many blocks stay in their order.
-/
def representatives (symbols : List TemplatedFunction) : List TemplatedFunction :=
  let firsts := (classes (fun f => (f.rva, f.blockCount)) symbols).filterMap (·.2.head?)
  firsts.mergeSort fun f g => f.blockCount ≤ g.blockCount

def comparisons (symbols : List TemplatedFunction) : List (TemplatedFunction × TemplatedFunction) :=
  let rs := representatives symbols
  rs.zip rs.tail

abbrev Comparing := StateM (List (TemplatedFunction × TemplatedFunction))

def compare (similarity : Similarity) (f g : TemplatedFunction) : Comparing Float32 :=
  fun compared => (similarity compared.length f g, compared ++ [(f, g)])

def meanSimilarity (similarity : Similarity) (symbols : List TemplatedFunction)
    : Comparing Float32 := do
  let pairs := comparisons symbols
  -- All instances share one address and have equally many blocks, so they are the same.
  if pairs.isEmpty then
    return 1
  let similarities ← pairs.mapM fun pair => compare similarity pair.1 pair.2
  return similarities.foldl (· + ·) (-0.0) / toBinary32 similarities.length

structure Findings where
  items : List Foldability
  compared : List (TemplatedFunction × TemplatedFunction)
  deriving DecidableEq, Repr

def Findings.take (similarity : Similarity) (found : Findings)
    (group : String × List TemplatedFunction) : Except AnalysisError Findings := do
  let (templateName, symbols) := group
  -- A single instance has nothing to be folded with.
  if symbols.length = 1 then
    return found
  let unique := uniqueAmong symbols
  let totalSize ← codeSize symbols unique
  let (mean, compared) := (meanSimilarity similarity symbols).run found.compared
  return { items := found.items ++ [make templateName symbols unique totalSize mean], compared }

def templates (s : Snapshot) : List (String × List TemplatedFunction) :=
  (classes Prod.fst (s.templatedFunctions.map fun f => (Name.genericFunction f, f))).map
    fun (name, functions) => (name, functions.map Prod.snd)

def find (similarity : Similarity) (s : Snapshot) : Pass Findings := do
  Pass.report (.begun "Grouping templated functions by type, function and parameters")
  let groups := templates s
  Pass.checkpoint
  let found ← Sweep.run .foldability s.templatedFunctions.length
    (fun sweep group => sweep.advance group.2.length)
    (Findings.take similarity) ⟨[], []⟩ (·.items.length) groups
  Pass.log .debug s!"Found template foldability: items={found.items.length}"
  return found

def diff (before after : List Foldability) : Except PairingError (List (Diff Foldability)) :=
  pairByName before after

end Foldability

end Footprint
