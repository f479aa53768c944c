import Footprint.Proofs.Contributions.Naming
import Mathlib.Data.List.Induction

/-!
This module contains what contributions come to that are built step by step. A step whose sums would
reach the limit fails and leaves behind no more than the name of its place, so every place holds
exactly what the steps for it have added that did not fail, whatever happened elsewhere.
-/

namespace Footprint

abbrev StepOutcome := ContributionStep × Option Place

structure Building where
  built : Contributions := .empty
  outcomes : List StepOutcome := []
  deriving DecidableEq, Repr

namespace Building

def take (b : Building) (s : ContributionStep) : Building where
  built := (b.built.take s).1
  outcomes := b.outcomes ++ [(s, (b.built.take s).2)]

def ofSteps (steps : List ContributionStep) : Building :=
  steps.foldl take {}

def added (b : Building) : List Posting :=
  (b.outcomes.filter (·.2.isNone)).map fun o => (o.1.place, o.1.amount.getD 0)

end Building

namespace Contributions

variable {c d : Contributions} {p : Place} {s : ContributionStep} {among : Place → Bool}

def Overflows (c : Contributions) (s : ContributionStep) : Prop :=
  ∃ e, s.amount = some e ∧ ¬(c.extentAt s.place + e).Fits

theorem put_put (c : Contributions) (p : Place) (e f : Extent)
    : (c.put p e).put p f = c.put p f := by
  cases p with
  | binarySection name => exact congrArg (Contributions.mk · _) (Roster.insert_insert ..)
  | coffGroup name => exact congrArg (Contributions.mk _ ·) (Roster.insert_insert ..)

theorem take_cases (c : Contributions) (s : ContributionStep)
    : ¬c.Overflows s ∧ c.take s = (c.put s.place (c.extentAt s.place + s.amount.getD 0), none)
      ∨ c.Overflows s ∧ c.take s = (c.put s.place (c.extentAt s.place), some s.place) := by
  unfold take Overflows touch add?
  dsimp only
  rw [extentAt_put, if_pos rfl]
  cases hamount : s.amount with
  | none => simp
  | some e =>
    by_cases hfits : (c.extentAt s.place + e).Fits
    . have hadd := Extent.add?_eq_some.2 ⟨hfits, rfl⟩
      simp [hadd, hfits, put_put]
    . have hadd := Extent.add?_eq_none.2 hfits
      simp [hadd, hfits]

theorem take_fault_ne_none_iff : (c.take s).2 ≠ none ↔ c.Overflows s := by
  rcases c.take_cases s with ⟨hfits, heq⟩ | ⟨hover, heq⟩
  . simp [heq, hfits]
  . simp [heq, hover]

theorem take_fault_eq_place (h : (c.take s).2 ≠ none) : (c.take s).2 = some s.place := by
  rcases c.take_cases s with ⟨_, heq⟩ | ⟨_, heq⟩
  . simp [heq] at h
  . rw [heq]

theorem extentAt_take (p : Place)
    : (c.take s).1.extentAt p
        = c.extentAt p + if (c.take s).2 = none ∧ p = s.place then s.amount.getD 0 else 0 := by
  rcases c.take_cases s with ⟨_, heq⟩ | ⟨_, heq⟩
  . rw [heq, extentAt_put]
    by_cases hp : p = s.place <;> simp [hp]
  . rw [heq, extentAt_put]
    by_cases hp : p = s.place <;> simp [hp]

theorem find?_take_of_ne (h : p ≠ s.place) : (c.take s).1.find? p = c.find? p := by
  rcases c.take_cases s with ⟨_, heq⟩ | ⟨_, heq⟩
  . rw [heq, find?_put, if_neg h]
  . rw [heq, find?_put, if_neg h]

theorem Names.take {places : List Place} (h : c.Names places)
    : (c.take s).1.Names (places ++ [s.place]) := by
  rcases c.take_cases s with ⟨_, heq⟩ | ⟨_, heq⟩
  . rw [heq]
    exact h.put s.place _
  . rw [heq]
    exact h.put s.place _

theorem take_congr (h : ∀ p, among p → c.find? p = d.find? p) (hs : among s.place)
    : (c.take s).2 = (d.take s).2
      ∧ ∀ p, among p → (c.take s).1.find? p = (d.take s).1.find? p := by
  have hextent : c.extentAt s.place = d.extentAt s.place := congrArg (·.getD {}) (h s.place hs)
  have hover : c.Overflows s ↔ d.Overflows s := by
    unfold Overflows
    rw [hextent]
  have hput (e : Extent) (p : Place) (hp : among p)
      : (c.put s.place e).find? p = (d.put s.place e).find? p := by
    rw [find?_put, find?_put, h p hp]
  rcases c.take_cases s with ⟨hc, heqc⟩ | ⟨hc, heqc⟩ <;>
    rcases d.take_cases s with ⟨hd, heqd⟩ | ⟨hd, heqd⟩
  . rw [heqc, heqd, hextent]
    exact ⟨rfl, hput _⟩
  . exact absurd (hover.2 hd) hc
  . exact absurd (hover.1 hc) hd
  . rw [heqc, heqd, hextent]
    exact ⟨rfl, hput _⟩

end Contributions

namespace Building

variable {b : Building} {s : ContributionStep} {steps : List ContributionStep}

/--
Whether what has been built accounts for some steps: every place that a step has named is listed
once, as first seen, with the sum of what was added to it and did not fail.
-/
structure Accounts (b : Building) (steps : List ContributionStep) : Prop where
  outcomes : b.outcomes.map Prod.fst = steps
  sections : b.built.sections.entries
    = (firstSeen (steps.filterMap (·.place.sectionName?))).map fun name =>
      (name, amountAt (.binarySection name) b.added)
  coffGroups : b.built.coffGroups.entries
    = (firstSeen (steps.filterMap (·.place.coffGroupName?))).map fun name =>
      (name, amountAt (.coffGroup name) b.added)

/--
Whether a further step fails exactly if it would bring one of the sums of its place to the limit,
and changes no sum if it fails, nor ever what is contributed to another place.
-/
structure Continues (b : Building) (s : ContributionStep) (fault : Option Place) (next : Building)
    : Prop where
  outcomes : next.outcomes = b.outcomes ++ [(s, fault)]
  fails_iff : fault ≠ none ↔ ∃ e, s.amount = some e ∧ ¬(amountAt s.place b.added + e).Fits
  blames : fault ≠ none → fault = some s.place
  kept : fault ≠ none → ∀ p, next.built.extentAt p = b.built.extentAt p
  others : ∀ p, p ≠ s.place → next.built.find? p = b.built.find? p

structure Separates (among : Place → Bool) (steps : List ContributionStep) : Prop where
  outcomes : (ofSteps steps).outcomes.filter (among ·.1.place)
    = (ofSteps (steps.filter (among ·.place))).outcomes
  built : ∀ p, among p
    → (ofSteps steps).built.find? p = (ofSteps (steps.filter (among ·.place))).built.find? p

theorem ofSteps_append_singleton (steps : List ContributionStep) (s : ContributionStep)
    : ofSteps (steps ++ [s]) = (ofSteps steps).take s := by
  unfold ofSteps
  rw [List.foldl_append]
  rfl

theorem names_built (steps : List ContributionStep)
    : (ofSteps steps).built.Names (steps.map (·.place)) := by
  induction steps using List.reverseRecOn with
  | nil => exact Contributions.names_empty
  | append_singleton steps s ih =>
    rw [ofSteps_append_singleton, List.map_append]
    exact ih.take

theorem amountAt_added_take (p : Place)
    : amountAt p (b.take s).added
        = amountAt p b.added
          + if (b.built.take s).2 = none ∧ p = s.place then s.amount.getD 0 else 0 := by
  unfold added take
  rw [List.filter_append, List.map_append]
  unfold amountAt
  rw [amountIn_append]
  congr 1
  cases (b.built.take s).2 with
  | none => simp [amountIn_cons, amountIn_nil, eq_comm]
  | some fault => simp [amountIn_nil]

theorem extentAt_built (steps : List ContributionStep) (p : Place)
    : (ofSteps steps).built.extentAt p = amountAt p (ofSteps steps).added := by
  induction steps using List.reverseRecOn with
  | nil => exact Contributions.extentAt_empty p
  | append_singleton steps s ih =>
    rw [ofSteps_append_singleton, amountAt_added_take, ← ih]
    exact Contributions.extentAt_take p

theorem map_fst_outcomes (steps : List ContributionStep)
    : (ofSteps steps).outcomes.map Prod.fst = steps := by
  induction steps using List.reverseRecOn with
  | nil => rfl
  | append_singleton steps s ih =>
    rw [ofSteps_append_singleton]
    unfold take
    rw [List.map_append, ih]
    rfl

theorem accounts_ofSteps (steps : List ContributionStep) : (ofSteps steps).Accounts steps where
  outcomes := map_fst_outcomes steps
  sections := by
    rw [Contributions.entries_sections (names_built steps), List.filterMap_map]
    simp only [extentAt_built, Function.comp_def]
  coffGroups := by
    rw [Contributions.entries_coffGroups (names_built steps), List.filterMap_map]
    simp only [extentAt_built, Function.comp_def]

theorem continues_ofSteps (steps : List ContributionStep) (s : ContributionStep)
    : (ofSteps steps).Continues s ((ofSteps steps).built.take s).2 (ofSteps (steps ++ [s])) := by
  rw [ofSteps_append_singleton]
  constructor
  case outcomes => rfl
  case fails_iff =>
    rw [← extentAt_built]
    exact Contributions.take_fault_ne_none_iff
  case blames => exact Contributions.take_fault_eq_place
  case kept =>
    intro hfault p
    refine (Contributions.extentAt_take p).trans ?_
    rw [if_neg fun h => hfault h.1, add_zero]
  case others => exact fun p hp => Contributions.find?_take_of_ne hp

theorem separates_ofSteps (among : Place → Bool) (steps : List ContributionStep)
    : Separates among steps := by
  induction steps using List.reverseRecOn with
  | nil => exact ⟨rfl, fun _ _ => rfl⟩
  | append_singleton steps s ih =>
    by_cases hs : among s.place
    . have ⟨hfault, hbuilt⟩ := Contributions.take_congr ih.built hs
      have hsteps : (steps ++ [s]).filter (among ·.place)
          = steps.filter (among ·.place) ++ [s] := by
        simp [hs]
      constructor
      . rw [hsteps, ofSteps_append_singleton, ofSteps_append_singleton]
        unfold take
        rw [List.filter_append, ih.outcomes, hfault]
        simp [hs]
      . rw [hsteps, ofSteps_append_singleton, ofSteps_append_singleton]
        exact hbuilt
    -- The step is about another kind of place, so it leaves those of this kind as they are.
    . have hsteps : (steps ++ [s]).filter (among ·.place) = steps.filter (among ·.place) := by
        simp [hs]
      constructor
      . rw [hsteps, ofSteps_append_singleton, ← ih.outcomes]
        unfold take
        rw [List.filter_append]
        simp [hs]
      . intro p hp
        have hne : p ≠ s.place := by
          rintro rfl
          exact hs hp
        rw [hsteps, ofSteps_append_singleton, ← ih.built p hp]
        exact Contributions.find?_take_of_ne hne

theorem steps_accounted (steps : List ContributionStep)
    : (ofSteps steps).Accounts steps
      ∧ (∀ s, ∃ fault, (ofSteps steps).Continues s fault (ofSteps (steps ++ [s])))
      ∧ ∀ among, Separates among steps := by
  refine ⟨accounts_ofSteps steps, ?_, fun among => separates_ofSteps among steps⟩
  intro s
  exact ⟨_, continues_ofSteps steps s⟩

-- A step that does not fit adds nothing, not even the part of it that would.
example
    : (ofSteps [
        { place := .binarySection ".rsrc", amount := some { size := wordLimit - 1 } },
        { place := .binarySection ".rsrc", amount := some { size := 1, virtualSize := 4 } },
        { place := .coffGroup ".rsrc", amount := some { size := 1 } },
        { place := .binarySection ".rsrc", amount := some { virtualSize := 2 } }]).built.postings
      = [(.binarySection ".rsrc", { size := wordLimit - 1, virtualSize := 2 }),
        (.coffGroup ".rsrc", { size := 1 })] := by
  rfl

end Building
end Footprint
