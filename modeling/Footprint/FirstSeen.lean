/-!
This module contains what can be read off a list when only the order of first appearances counts:
its distinct members, the first member that repeats an earlier one, and its division into classes.
-/

namespace Footprint

variable {κ α : Type} [DecidableEq κ]

def firstSeen : List κ → List κ
  | [] => []
  | k :: ks => k :: (firstSeen ks).filter (· ≠ k)

def firstRepeat? (ks : List κ) : Option κ :=
  go [] ks
where
  go (seen : List κ) : List κ → Option κ
    | [] => none
    | k :: ks => if k ∈ seen then some k else go (k :: seen) ks

def classes (key : α → κ) (xs : List α) : List (κ × List α) :=
  (firstSeen (xs.map key)).map fun k => (k, xs.filter (key · = k))

theorem mem_firstSeen {k : κ} {ks : List κ} : k ∈ firstSeen ks ↔ k ∈ ks := by
  induction ks with
  | nil => rfl
  | cons j ks ih =>
    by_cases h : k = j
    . simp [firstSeen, h]
    . simp [firstSeen, h, ih]

theorem nodup_firstSeen (ks : List κ) : (firstSeen ks).Nodup := by
  induction ks with
  | nil => exact List.nodup_nil
  | cons j ks ih =>
    refine List.nodup_cons.2 ⟨by simp, ?_⟩
    exact List.Pairwise.filter _ ih

end Footprint
