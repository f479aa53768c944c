import Footprint.Contributions
import Footprint.Proofs.Quantity
import Mathlib.Algebra.Order.Monoid.Canonical.Defs

namespace Footprint

attribute [ext] Extent

namespace Extent

instance : Zero Extent where
  zero := {}

instance : Add Extent where
  add a b := { size := a.size + b.size, virtualSize := a.virtualSize + b.virtualSize }

@[simp]
theorem size_zero : (0 : Extent).size = 0 := by
  rfl

@[simp]
theorem virtualSize_zero : (0 : Extent).virtualSize = 0 := by
  rfl

@[simp]
theorem size_add (a b : Extent) : (a + b).size = a.size + b.size := by
  rfl

@[simp]
theorem virtualSize_add (a b : Extent) : (a + b).virtualSize = a.virtualSize + b.virtualSize := by
  rfl

instance : AddCommMonoid Extent where
  add_assoc a b c := by ext <;> simp [Nat.add_assoc]
  zero_add a := by ext <;> simp
  add_zero a := by ext <;> simp
  add_comm a b := by ext <;> simp [Nat.add_comm]
  nsmul := nsmulRec

theorem size_sum (es : List Extent) : es.sum.size = (es.map Extent.size).sum := by
  induction es with
  | nil => rfl
  | cons e es ih => simp [ih]

theorem virtualSize_sum (es : List Extent)
    : es.sum.virtualSize = (es.map Extent.virtualSize).sum := by
  induction es with
  | nil => rfl
  | cons e es ih => simp [ih]

instance : PartialOrder Extent where
  le a b := a.size ≤ b.size ∧ a.virtualSize ≤ b.virtualSize
  le_refl a := ⟨Nat.le_refl _, Nat.le_refl _⟩
  le_trans a b c hab hbc := ⟨Nat.le_trans hab.1 hbc.1, Nat.le_trans hab.2 hbc.2⟩
  le_antisymm a b hab hba := by
    ext
    . exact Nat.le_antisymm hab.1 hba.1
    . exact Nat.le_antisymm hab.2 hba.2

theorem le_def {a b : Extent} : a ≤ b ↔ a.size ≤ b.size ∧ a.virtualSize ≤ b.virtualSize := by
  rfl

instance : IsOrderedAddMonoid Extent where
  add_le_add_left a b h c := by
    rw [le_def] at h ⊢
    simp only [size_add, virtualSize_add]
    omega

instance : CanonicallyOrderedAdd Extent where
  exists_add_of_le {a b} h := by
    rw [le_def] at h
    refine ⟨{ size := b.size - a.size, virtualSize := b.virtualSize - a.virtualSize }, ?_⟩
    ext
    . simp only [size_add]
      omega
    . simp only [virtualSize_add]
      omega
  le_add_self a b := by
    rw [le_def]
    simp only [size_add, virtualSize_add]
    omega
  le_self_add a b := by
    rw [le_def]
    simp only [size_add, virtualSize_add]
    omega

def Fits (e : Extent) : Prop :=
  e.size < wordLimit ∧ e.virtualSize < wordLimit

instance (e : Extent) : Decidable e.Fits :=
  inferInstanceAs (Decidable (_ ∧ _))

theorem fits_zero : (0 : Extent).Fits := by
  decide

theorem Fits.of_le {a b : Extent} (hb : b.Fits) (h : a ≤ b) : a.Fits := by
  rw [le_def] at h
  unfold Fits at hb ⊢
  omega

theorem add?_eq_some {a b c : Extent} : a.add? b = some c ↔ (a + b).Fits ∧ a + b = c := by
  unfold add? Fits Quantity.add?
  by_cases hsize : a.size + b.size < wordLimit
  . by_cases hvirtual : a.virtualSize + b.virtualSize < wordLimit
    . simp [hsize, hvirtual, Extent.ext_iff]
    . simp [hvirtual]
  . simp [hsize]

theorem add?_eq_none {a b : Extent} : a.add? b = none ↔ ¬(a + b).Fits := by
  cases h : a.add? b with
  | none =>
    simp only [true_iff]
    intro hfits
    have := add?_eq_some.2 ⟨hfits, rfl⟩
    simp [h] at this
  | some c =>
    have := (add?_eq_some.1 h).1
    simp [this]

end Extent
end Footprint
