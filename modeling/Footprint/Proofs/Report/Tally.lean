import Footprint.Report.Totals
import Mathlib.Logic.ExistsUnique

namespace Footprint

inductive Change where
  | added
  | removed
  | grown
  | shrunk
  | unchanged
  deriving DecidableEq, Repr

variable {α : Type} [Sized α] {d : Diff α} {diffs : List (Diff α)} {k : Change}

def Diff.change : Diff α → Change
  | .afterOnly _ => .added
  | .beforeOnly _ => .removed
  | .both before after =>
    if (Diff.both before after).sizeDiff = 0 then .unchanged
    else if 0 < (Diff.both before after).sizeDiff then .grown
    else .shrunk

def Diff.Shows (d : Diff α) : Change → Prop
  | .added => d.before? = none
  | .removed => d.after? = none
  | .grown => d.before?.isSome ∧ d.after?.isSome ∧ 0 < d.sizeDiff
  | .shrunk => d.before?.isSome ∧ d.after?.isSome ∧ d.sizeDiff < 0
  | .unchanged => d.before?.isSome ∧ d.after?.isSome ∧ d.sizeDiff = 0

theorem Diff.change_eq_iff : d.change = k ↔ d.Shows k := by
  unfold Shows
  cases d with
  | afterOnly a => cases k <;> simp [change, before?, after?]
  | beforeOnly b => cases k <;> simp [change, before?, after?]
  | both b a =>
    unfold change
    dsimp only
    cases k <;> simp only [before?, after?, Option.isSome_some, true_and, reduceCtorEq] <;> grind

instance (d : Diff α) (k : Change) : Decidable (d.Shows k) :=
  decidable_of_iff (d.change = k) Diff.change_eq_iff

theorem Diff.existsUnique_shows (d : Diff α) : ∃! k, d.Shows k := by
  simp only [← change_eq_iff]
  exact existsUnique_eq'

def Change.tally (k : Change) (diffs : List (Diff α)) : Nat :=
  (diffs.map Diff.change).count k

theorem Change.tally_cons (k : Change) (d : Diff α) (diffs : List (Diff α))
    : k.tally (d :: diffs) = k.tally diffs + if d.change = k then 1 else 0 := by
  unfold tally
  rw [List.map_cons, List.count_cons]
  simp only [beq_iff_eq]

theorem Change.tally_eq_countP (k : Change) (diffs : List (Diff α))
    : k.tally diffs = diffs.countP (·.Shows k) := by
  unfold tally
  rw [List.count_eq_countP, List.countP_map]
  congr 1
  funext d
  rw [Bool.eq_iff_iff, decide_eq_true_iff, ← Diff.change_eq_iff]
  exact beq_iff_eq

theorem Change.sum_tally (diffs : List (Diff α))
    : added.tally diffs + removed.tally diffs + grown.tally diffs + shrunk.tally diffs
        + unchanged.tally diffs = diffs.length := by
  induction diffs with
  | nil => rfl
  | cons d diffs ih =>
    simp only [tally_cons, List.length_cons]
    rw [← ih]
    cases d.change <;> simp <;> omega

namespace ChangeTotals

theorem foldl_count (diffs : List (Diff α)) (t : ChangeTotals)
    : diffs.foldl count t = { t with
        added := t.added + Change.added.tally diffs
        removed := t.removed + Change.removed.tally diffs
        grown := t.grown + Change.grown.tally diffs
        shrunk := t.shrunk + Change.shrunk.tally diffs
        unchanged := t.unchanged + Change.unchanged.tally diffs } := by
  induction diffs generalizing t with
  | nil => rfl
  | cons d diffs ih =>
    rw [List.foldl_cons, ih]
    simp only [Change.tally_cons]
    cases d with
    | afterOnly a => simp [count, Diff.change, Nat.add_assoc, Nat.add_comm 1]
    | beforeOnly b => simp [count, Diff.change, Nat.add_assoc, Nat.add_comm 1]
    | both b a =>
      unfold count Diff.change
      dsimp only
      split
      . simp [Nat.add_assoc, Nat.add_comm 1]
      . split
        . simp [Nat.add_assoc, Nat.add_comm 1]
        . simp [Nat.add_assoc, Nat.add_comm 1]

theorem add_def (a b : ChangeTotals) : a + b = ChangeTotals.add a b := by
  rfl

theorem ofDiffs_eq (diffs : List (Diff α))
    : ofDiffs diffs = {
        added := Change.added.tally diffs
        removed := Change.removed.tally diffs
        grown := Change.grown.tally diffs
        shrunk := Change.shrunk.tally diffs
        unchanged := Change.unchanged.tally diffs
        total := Change.added.tally diffs + Change.removed.tally diffs + Change.grown.tally diffs
          + Change.shrunk.tally diffs + Change.unchanged.tally diffs } := by
  unfold ofDiffs
  rw [foldl_count, add_def]
  unfold ChangeTotals.add
  simp only [Nat.zero_add]

theorem total_ofDiffs (diffs : List (Diff α))
    : (ofDiffs diffs).total = (ofDiffs diffs).added + (ofDiffs diffs).removed
        + (ofDiffs diffs).grown + (ofDiffs diffs).shrunk + (ofDiffs diffs).unchanged := by
  rw [ofDiffs_eq]

def number (t : ChangeTotals) : Change → Nat
  | .added => t.added
  | .removed => t.removed
  | .grown => t.grown
  | .shrunk => t.shrunk
  | .unchanged => t.unchanged

structure Counts (t : ChangeTotals) (diffs : List (Diff α)) : Prop where
  number (k : Change) : t.number k = diffs.countP (·.Shows k)
  total : t.total = diffs.length

theorem counts_ofDiffs (diffs : List (Diff α)) : (ofDiffs diffs).Counts diffs where
  number k := by
    rw [ofDiffs_eq, ← k.tally_eq_countP]
    cases k <;> rfl
  total := by
    rw [ofDiffs_eq, ← Change.sum_tally diffs]

end ChangeTotals
end Footprint
