import Footprint.Proofs.Report.Tally
import Footprint.Proofs.Report.Totals
import Mathlib.Data.Finset.Union

/-!
This module contains that the totals of a report do not depend on how the counting is divided. The
lists may be cut into chunks anywhere, the chunks may be counted at the same time, and their totals
may be added in any bracketing that begins with the totals before anything has been counted.
-/

namespace Footprint

variable {α τ : Type}

inductive Division (α : Type) where
  | start
  | chunk (items : List α)
  | join (left right : Division α)

namespace Division

def items : Division α → List α
  | start => []
  | chunk items => items
  | join left right => left.items ++ right.items

def beginsAtStart : Division α → Bool
  | start => true
  | chunk _ => false
  | join left _ => left.beginsAtStart

def total [Add τ] (zero : τ) (count : τ → α → τ) : Division α → τ
  | start => zero
  | chunk items => items.foldl count zero
  | join left right => left.total zero count + right.total zero count

structure Covers (d : Division α) (xs : List α) : Prop where
  items : d.items = xs
  beginsAtStart : d.beginsAtStart = true

end Division

/--
Whether totals can be added in any bracketing. The totals before anything has been counted need not
be neutral, as an addition may also work out what is derived from the other totals, but a sum does
not change if they are added to it.
-/
structure AddsInParts [Add τ] (zero : τ) : Prop where
  add_assoc (t u v : τ) : t + u + v = t + (u + v)
  add_zero (t : τ) : t + zero = zero + t
  zero_add_zero : zero + zero = zero
  zero_add_add (t u : τ) : zero + (t + u) = t + u

def CountsOneByOne [Add τ] (zero : τ) (count : τ → α → τ) : Prop :=
  ∀ t x, zero + count t x = t + count zero x

namespace AddsInParts

variable [Add τ] {zero : τ} {count : τ → α → τ}

theorem add_zero_add (h : AddsInParts zero) (t u : τ) : t + (zero + u) = t + u := by
  rw [← h.add_assoc, h.add_zero, h.add_assoc, h.zero_add_add]

theorem zero_add_add_zero_add (h : AddsInParts zero) (t u : τ)
    : zero + t + (zero + u) = t + u := by
  rw [h.add_zero_add, h.add_assoc, h.zero_add_add]

theorem zero_add_foldl (h : AddsInParts zero) (hcount : CountsOneByOne zero count) (xs : List α)
    (t : τ)
    : zero + xs.foldl count t = t + xs.foldl count zero := by
  induction xs generalizing t with
  | nil => exact (h.add_zero t).symm
  | cons x xs ih =>
    calc zero + xs.foldl count (count t x)
      _ = count t x + xs.foldl count zero := ih _
      _ = zero + count t x + xs.foldl count zero := by
        rw [h.add_assoc, h.zero_add_add]
      _ = t + (count zero x + xs.foldl count zero) := by
        rw [hcount, h.add_assoc]
      _ = t + (zero + xs.foldl count (count zero x)) := by
        rw [ih]
      _ = t + xs.foldl count (count zero x) := h.add_zero_add _ _

theorem zero_add_foldl_append (h : AddsInParts zero) (hcount : CountsOneByOne zero count)
    (xs ys : List α)
    : zero + (xs ++ ys).foldl count zero = xs.foldl count zero + ys.foldl count zero := by
  rw [List.foldl_append, h.zero_add_foldl hcount]

theorem zero_add_total (h : AddsInParts zero) (hcount : CountsOneByOne zero count) (d : Division α)
    : zero + d.total zero count = zero + d.items.foldl count zero := by
  induction d with
  | start => rfl
  | chunk items => rfl
  | join left right ihleft ihright =>
    show zero + (left.total zero count + right.total zero count)
      = zero + (left.items ++ right.items).foldl count zero
    rw [h.zero_add_add, ← h.zero_add_add_zero_add, ihleft, ihright, h.zero_add_add_zero_add,
      h.zero_add_foldl_append hcount]

theorem total_eq (h : AddsInParts zero) (hcount : CountsOneByOne zero count) {d : Division α}
    {xs : List α} (hd : d.Covers xs)
    : d.total zero count = zero + xs.foldl count zero := by
  obtain ⟨rfl, hbegins⟩ := hd
  rw [← h.zero_add_total hcount]
  cases d with
  | start => exact h.zero_add_zero.symm
  | chunk items => cases hbegins
  | join left right => exact (h.zero_add_add _ _).symm

end AddsInParts

namespace ChangeTotals

theorem addsInParts : AddsInParts ({} : ChangeTotals) where
  add_assoc t u v := by
    simp only [add_def, ChangeTotals.add, Nat.add_assoc]
  add_zero t := by
    simp only [add_def, ChangeTotals.add, Nat.add_zero, Nat.zero_add]
  zero_add_zero := rfl
  zero_add_add t u := by
    simp only [add_def, ChangeTotals.add, Nat.zero_add]

theorem countsOneByOne [Sized α]
    : CountsOneByOne ({} : ChangeTotals) (count : ChangeTotals → Diff α → ChangeTotals) := by
  intro t d
  cases d with
  | afterOnly a => simp only [add_def, ChangeTotals.add, count, Nat.zero_add, Nat.add_zero]
  | beforeOnly b => simp only [add_def, ChangeTotals.add, count, Nat.zero_add, Nat.add_zero]
  | both b a =>
    unfold count
    dsimp only
    split_ifs <;> simp only [add_def, ChangeTotals.add, Nat.zero_add, Nat.add_zero]

end ChangeTotals

open Quantity (wrappingAdd wrap_wrap wrap_wrap_add wrap_add_wrap signedWrappingAdd
  signedWrap_signedWrap signedWrap_signedWrap_add signedWrap_add_signedWrap)

namespace WasteTotals

theorem addsInParts : AddsInParts ({} : WasteTotals) where
  add_assoc t u v := by
    simp only [add_def, WasteTotals.add, wrappingAdd, wrap_wrap_add, wrap_add_wrap, Nat.add_assoc]
  add_zero t := by
    simp only [add_def, WasteTotals.add, wrappingAdd, Nat.add_zero, Nat.zero_add]
  zero_add_zero := rfl
  zero_add_add t u := by
    simp only [add_def, WasteTotals.add, wrappingAdd, wrap_wrap, Nat.zero_add]

theorem countsOneByOne_duplicateData : CountsOneByOne {} countDuplicateData := by
  intro t d
  simp only [add_def, WasteTotals.add, countDuplicateData, wrappingAdd, wrap_wrap, wrap_add_wrap,
    Nat.zero_add, Nat.add_zero]

theorem countsOneByOne_foldability : CountsOneByOne {} countFoldability := by
  intro t f
  simp only [add_def, WasteTotals.add, countFoldability, wrappingAdd, wrap_wrap, wrap_add_wrap,
    Nat.zero_add, Nat.add_zero]

theorem countsOneByOne_wastefulVirtual : CountsOneByOne {} countWastefulVirtual := by
  intro t v
  simp only [add_def, WasteTotals.add, countWastefulVirtual, wrappingAdd, wrap_wrap, wrap_add_wrap,
    Nat.zero_add, Nat.add_zero]

end WasteTotals

namespace WasteDiffTotals

theorem addsInParts : AddsInParts ({} : WasteDiffTotals) where
  add_assoc t u v := by
    simp only [add_def, WasteDiffTotals.add, wrappingAdd, signedWrappingAdd, wrap_wrap_add,
      wrap_add_wrap, signedWrap_signedWrap_add, signedWrap_add_signedWrap, Nat.add_assoc,
      Int.add_assoc]
  add_zero t := by
    simp only [add_def, WasteDiffTotals.add, wrappingAdd, signedWrappingAdd, Nat.add_zero,
      Nat.zero_add, Int.add_zero, Int.zero_add]
  zero_add_zero := rfl
  zero_add_add t u := by
    simp only [add_def, WasteDiffTotals.add, wrappingAdd, signedWrappingAdd, wrap_wrap,
      signedWrap_signedWrap, Nat.zero_add, Int.zero_add]

theorem countsOneByOne_duplicateData : CountsOneByOne {} countDuplicateData := by
  intro t d
  simp only [add_def, WasteDiffTotals.add, countDuplicateData, wrappingAdd, signedWrappingAdd,
    wrap_wrap, wrap_add_wrap, signedWrap_signedWrap, signedWrap_add_signedWrap, Nat.zero_add,
    Nat.add_zero, Int.zero_add, Int.add_zero]

theorem countsOneByOne_foldability : CountsOneByOne {} countFoldability := by
  intro t d
  simp only [add_def, WasteDiffTotals.add, countFoldability, wrappingAdd, signedWrappingAdd,
    wrap_wrap, wrap_add_wrap, signedWrap_signedWrap, signedWrap_add_signedWrap, Nat.zero_add,
    Nat.add_zero, Int.zero_add, Int.add_zero]

theorem countsOneByOne_wastefulVirtual : CountsOneByOne {} countWastefulVirtual := by
  intro t d
  simp only [add_def, WasteDiffTotals.add, countWastefulVirtual, wrappingAdd, signedWrappingAdd,
    wrap_wrap, wrap_add_wrap, signedWrap_signedWrap, signedWrap_add_signedWrap, Nat.zero_add,
    Nat.add_zero, Int.zero_add, Int.add_zero]

end WasteDiffTotals

structure WasteDivision (a : Analysis) where
  duplicateData : Division DuplicateData
  foldability : Division Foldability
  wastefulVirtuals : Division WastefulVirtual
  compilands : List String
  coversDuplicateData : duplicateData.Covers a.duplicateData
  coversFoldability : foldability.Covers a.foldability
  coversWastefulVirtuals : wastefulVirtuals.Covers a.wastefulVirtuals
  compilands_perm : compilands.Perm (a.duplicateData.flatMap (·.referencedIn))

structure WasteDiffDivision (c : Comparison) where
  duplicateData : Division (Diff DuplicateData)
  foldability : Division (Diff Foldability)
  wastefulVirtuals : Division WastefulVirtualDiff
  types : List String
  coversDuplicateData : duplicateData.Covers c.duplicateData
  coversFoldability : foldability.Covers c.foldability
  coversWastefulVirtuals : wastefulVirtuals.Covers c.wastefulVirtuals
  types_perm : types.Perm
    (c.wastefulVirtuals.flatMap fun d => d.hierarchyChanges.map (·.typeName))

section Divisions

variable {a : Analysis} {c : Comparison}

def WasteDivision.total (d : WasteDivision a) : WasteTotals :=
  let sum := d.duplicateData.total {} WasteTotals.countDuplicateData
    + d.foldability.total {} WasteTotals.countFoldability
    + d.wastefulVirtuals.total {} WasteTotals.countWastefulVirtual
  { sum with duplicateDataCompilands := (firstSeen d.compilands).length }

def WasteDiffDivision.total (d : WasteDiffDivision c) : WasteDiffTotals :=
  let sum := d.duplicateData.total {} WasteDiffTotals.countDuplicateData
    + d.foldability.total {} WasteDiffTotals.countFoldability
    + d.wastefulVirtuals.total {} WasteDiffTotals.countWastefulVirtual
  { sum with typesChanged := (firstSeen d.types).length }

theorem length_firstSeen_of_perm {ks js : List String} (h : ks.Perm js)
    : (firstSeen ks).length = (firstSeen js).length := by
  exact (perm_firstSeen_iff.2 (List.toFinset_eq_of_perm _ _ h)).length_eq

theorem WasteDivision.total_eq (d : WasteDivision a) : d.total = .ofAnalysis a := by
  have h := WasteTotals.addsInParts
  unfold total WasteTotals.ofAnalysis
  rw [h.total_eq WasteTotals.countsOneByOne_duplicateData d.coversDuplicateData,
    h.total_eq WasteTotals.countsOneByOne_foldability d.coversFoldability,
    h.total_eq WasteTotals.countsOneByOne_wastefulVirtual d.coversWastefulVirtuals,
    h.zero_add_add_zero_add, h.add_zero_add, length_firstSeen_of_perm d.compilands_perm]

theorem WasteDiffDivision.total_eq (d : WasteDiffDivision c) : d.total = .ofComparison c := by
  have h := WasteDiffTotals.addsInParts
  unfold total WasteDiffTotals.ofComparison
  rw [h.total_eq WasteDiffTotals.countsOneByOne_duplicateData d.coversDuplicateData,
    h.total_eq WasteDiffTotals.countsOneByOne_foldability d.coversFoldability,
    h.total_eq WasteDiffTotals.countsOneByOne_wastefulVirtual d.coversWastefulVirtuals,
    h.zero_add_add_zero_add, h.add_zero_add, length_firstSeen_of_perm d.types_perm]

end Divisions

structure WasteTotals.SumsOf (t : WasteTotals) (a : Analysis) : Prop where
  duplicateDataItems : t.duplicateDataItems = a.duplicateData.length
  duplicateDataCompilands : t.duplicateDataCompilands
    = (a.duplicateData.toFinset.biUnion (·.referencedIn.toFinset)).card
  duplicateDataWasted : t.duplicateDataWasted = (a.duplicateData.map (·.wastedSize)).sum
  foldabilityItems : t.foldabilityItems = a.foldability.length
  foldabilityWasted : t.foldabilityWasted = (a.foldability.map (·.wastedSize)).sum
  wastefulVirtualItems : t.wastefulVirtualItems = a.wastefulVirtuals.length
  wastefulVirtualComTypes : t.wastefulVirtualComTypes = a.wastefulVirtuals.countP (·.isComType)
  wastefulVirtualWasted : t.wastefulVirtualWasted = (a.wastefulVirtuals.map (·.wastedSize)).sum
  totalWasted : t.totalWasted
    = t.duplicateDataWasted + t.foldabilityWasted + t.wastefulVirtualWasted

structure WasteDiffTotals.SumsOf (t : WasteDiffTotals) (c : Comparison) : Prop where
  duplicateDataDiff : t.duplicateDataDiff = (c.duplicateData.map (·.wastedSizeDiff)).sum
  duplicateDataRemaining : t.duplicateDataRemaining
    = (c.duplicateData.map (·.wastedSizeRemaining)).sum
  foldabilityDiff : t.foldabilityDiff = (c.foldability.map (·.wastedSizeDiff)).sum
  foldabilityRemaining : t.foldabilityRemaining
    = (c.foldability.map (·.wastedSizeRemaining)).sum
  wastefulVirtualDiff : t.wastefulVirtualDiff = (c.wastefulVirtuals.map (·.wastedSizeDiff)).sum
  wastefulVirtualRemaining : t.wastefulVirtualRemaining
    = (c.wastefulVirtuals.map (·.diff.wastedSizeRemaining)).sum
  typesChanged : t.typesChanged = (c.wastefulVirtuals.toFinset.biUnion
    fun d => (d.hierarchyChanges.map (·.typeName)).toFinset).card
  totalDiff : t.totalDiff = t.duplicateDataDiff + t.foldabilityDiff + t.wastefulVirtualDiff

theorem length_firstSeen_flatMap [DecidableEq α] (names : α → List String) (xs : List α)
    : (firstSeen (xs.flatMap names)).length
        = (xs.toFinset.biUnion fun x => (names x).toFinset).card := by
  rw [length_firstSeen]
  congr 1
  ext name
  simp only [List.mem_toFinset, List.mem_flatMap, Finset.mem_biUnion]

theorem WasteTotals.sumsOf_exact (a : Analysis) : (exact a).SumsOf a := by
  unfold exact
  rw [length_firstSeen_flatMap]
  constructor <;> rfl

theorem WasteDiffTotals.sumsOf_exact (c : Comparison) : (exact c).SumsOf c := by
  unfold exact
  rw [length_firstSeen_flatMap]
  constructor <;> rfl

theorem Report.totals_in_any_division
    : (∀ {α : Type} [Sized α] (diffs : List (Diff α)) (d : Division (Diff α)), d.Covers diffs
        → d.total {} ChangeTotals.count = .ofDiffs diffs
          ∧ (ChangeTotals.ofDiffs diffs).Counts diffs ∧ ∀ diff ∈ diffs, ∃! k, diff.Shows k)
      ∧ (∀ (a : Analysis) (d : WasteDivision a),
        d.total = .ofAnalysis a
          ∧ d.total = (WasteTotals.exact a).wrapped ∧ (WasteTotals.exact a).SumsOf a
          ∧ ((WasteTotals.exact a).totalWasted < wordLimit
            → (WasteTotals.ofAnalysis a).SumsOf a))
      ∧ ∀ (c : Comparison) (d : WasteDiffDivision c),
        d.total = .ofComparison c
          ∧ d.total = (WasteDiffTotals.exact c).wrapped ∧ (WasteDiffTotals.exact c).SumsOf c
          ∧ ((WasteDiffTotals.exact c).InRange → (WasteDiffTotals.ofComparison c).SumsOf c) := by
  refine ⟨?_, ?_, ?_⟩
  . intro α _ diffs d hd
    have htotal := ChangeTotals.addsInParts.total_eq ChangeTotals.countsOneByOne hd
    exact ⟨htotal, ChangeTotals.counts_ofDiffs diffs, fun diff _ => diff.existsUnique_shows⟩
  . intro a d
    refine ⟨d.total_eq, d.total_eq.trans (WasteTotals.ofAnalysis_eq a),
      WasteTotals.sumsOf_exact a, ?_⟩
    intro hlt
    rw [WasteTotals.ofAnalysis_of_lt hlt]
    exact WasteTotals.sumsOf_exact a
  . intro c d
    refine ⟨d.total_eq, d.total_eq.trans (WasteDiffTotals.ofComparison_eq c),
      WasteDiffTotals.sumsOf_exact c, ?_⟩
    intro hrange
    rw [WasteDiffTotals.ofComparison_of_inRange hrange]
    exact WasteDiffTotals.sumsOf_exact c

def Division.halves (xs ys : List α) : Division α :=
  .join (.join .start (.chunk xs)) (.join .start (.chunk ys))

theorem Division.covers_halves (xs ys : List α) : (halves xs ys).Covers (xs ++ ys) where
  items := rfl
  beginsAtStart := rfl

def twoTables : Analysis where
  binary := "a.exe"
  bytesPerWord := 8
  sections := []
  libs := []
  compilands := []
  sourceFiles := []
  symbols := []
  duplicateData := [copiedTable 0 1, copiedTable 16 2]
  foldability := []
  wastefulVirtuals := []

def oneTableLeft : Comparison where
  beforeBinary := "a.exe"
  afterBinary := "a.exe"
  sections := []
  libs := []
  compilands := []
  sourceFiles := []
  symbols := []
  duplicateData := [.beforeOnly (copiedTable 0 1), .both (copiedTable 16 2) (copiedTable 0 2)]
  foldability := []
  wastefulVirtuals := []

def twoTablesDivision : WasteDivision twoTables where
  duplicateData := .halves [copiedTable 0 1] [copiedTable 16 2]
  foldability := .start
  wastefulVirtuals := .start
  compilands := ["b.obj", "b.obj", "a.obj", "a.obj"]
  coversDuplicateData := Division.covers_halves _ _
  coversFoldability := ⟨rfl, rfl⟩
  coversWastefulVirtuals := ⟨rfl, rfl⟩
  compilands_perm := by decide

def oneTableLeftDivision : WasteDiffDivision oneTableLeft where
  duplicateData := .halves [.beforeOnly (copiedTable 0 1)]
    [.both (copiedTable 16 2) (copiedTable 0 2)]
  foldability := .start
  wastefulVirtuals := .start
  types := []
  coversDuplicateData := Division.covers_halves _ _
  coversFoldability := ⟨rfl, rfl⟩
  coversWastefulVirtuals := ⟨rfl, rfl⟩
  types_perm := List.Perm.nil

theorem Report.totals_in_any_division_halves
    : (Division.halves [.afterOnly { size := 8 }] [.both { size := 8 } { size := 4 }]).total
        ({} : ChangeTotals) (ChangeTotals.count (α := Extent))
        = { added := 1, shrunk := 1, total := 2 }
      ∧ twoTablesDivision.total
        = { duplicateDataItems := 2, duplicateDataCompilands := 2, duplicateDataWasted := 16,
            totalWasted := 16 }
      ∧ oneTableLeftDivision.total
        = { duplicateDataDiff := -8, duplicateDataRemaining := 8, totalDiff := -8 } := by
  have ⟨hchanges, hwaste, hdiff⟩ := totals_in_any_division
  refine ⟨?_, ?_, ?_⟩
  . exact (hchanges _ _ (Division.covers_halves _ _)).1
  . exact (hwaste _ _).1
  . exact (hdiff _ _).1

end Footprint
