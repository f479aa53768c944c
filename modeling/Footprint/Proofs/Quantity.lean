import Footprint.Quantity
import Mathlib.Algebra.Order.BigOperators.Group.List
import Mathlib.Algebra.Ring.Int.Defs
import Mathlib.Algebra.Ring.Nat

namespace Footprint
namespace Quantity

theorem add?_eq_none {a b : Nat} : add? a b = none ↔ wordLimit ≤ a + b := by
  unfold add?
  split
  . simp; omega
  . simp; omega

theorem foldlM_add?_of_lt {counts : List Nat} {start : Nat}
    (h : start + counts.sum < wordLimit)
    : counts.foldlM add? start = some (start + counts.sum) := by
  induction counts generalizing start with
  | nil => simp
  | cons count counts ih =>
    rw [List.sum_cons] at h
    have hadd : add? start count = some (start + count) := by
      rw [add?_eq_some]
      omega
    rw [List.foldlM_cons, hadd, Option.bind_eq_bind, Option.bind_some, ih (by omega)]
    rw [List.sum_cons, Nat.add_assoc]

theorem foldlM_add?_of_le {counts : List Nat} {start : Nat} (hstart : start < wordLimit)
    (h : wordLimit ≤ start + counts.sum)
    : counts.foldlM add? start = none := by
  induction counts generalizing start with
  | nil =>
    rw [List.sum_nil] at h
    omega
  | cons count counts ih =>
    rw [List.sum_cons] at h
    rw [List.foldlM_cons]
    cases hadd : add? start count with
    | none => rfl
    | some next =>
      have ⟨hlt, heq⟩ := add?_eq_some.1 hadd
      apply ih
      . omega
      . omega

theorem total?_eq_some {counts : List Nat} {total : Nat}
    : total? counts = some total ↔ counts.sum < wordLimit ∧ counts.sum = total := by
  unfold total?
  by_cases h : counts.sum < wordLimit
  . rw [foldlM_add?_of_lt (by omega)]
    simp [h]
  . rw [foldlM_add?_of_le (by decide) (by omega)]
    simp [h]

theorem total?_eq_none {counts : List Nat} : total? counts = none ↔ wordLimit ≤ counts.sum := by
  rw [← not_iff_not, ← ne_eq, Option.ne_none_iff_exists']
  simp only [total?_eq_some]
  constructor
  . intro ⟨total, h, _⟩
    omega
  . intro h
    exact ⟨counts.sum, by omega, rfl⟩

theorem foldl_saturatingAdd (counts : List Nat) (start : Nat)
    : counts.foldl saturatingAdd (min start (wordLimit - 1))
        = min (start + counts.sum) (wordLimit - 1) := by
  induction counts generalizing start with
  | nil => simp
  | cons count counts ih =>
    have hstep : saturatingAdd (min start (wordLimit - 1)) count
        = min (start + count) (wordLimit - 1) := by
      unfold saturatingAdd
      omega
    rw [List.foldl_cons, hstep, ih, List.sum_cons, Nat.add_assoc]

theorem saturatingTotal_eq_min (counts : List Nat)
    : saturatingTotal counts = min counts.sum (wordLimit - 1) := by
  have h := foldl_saturatingAdd counts 0
  rw [Nat.zero_add, Nat.zero_min] at h
  exact h

theorem saturatingTotal_eq_sum {counts : List Nat} (h : counts.sum < wordLimit)
    : saturatingTotal counts = counts.sum := by
  rw [saturatingTotal_eq_min]
  omega

theorem sum_eq_sum (counts : List Nat) : sum counts = counts.sum := by
  exact List.sum_eq_foldl.symm

section Wrap

variable {a b n : Nat} {i j : Int}

theorem wrap_of_lt (h : n < wordLimit) : wrap n = n := by
  exact Nat.mod_eq_of_lt h

theorem wrap_wrap (n : Nat) : wrap (wrap n) = wrap n := by
  exact Nat.mod_mod n wordLimit

theorem wrap_wrap_add (a b : Nat) : wrap (wrap a + b) = wrap (a + b) := by
  exact Nat.mod_add_mod a wordLimit b

theorem wrap_add_wrap (a b : Nat) : wrap (a + wrap b) = wrap (a + b) := by
  exact Nat.add_mod_mod a b wordLimit

theorem wrappingMul_wrap_left (a b : Nat) : wrappingMul (wrap a) b = wrap (a * b) := by
  exact Nat.mod_mul_mod a b wordLimit

theorem wrappingMul_of_lt (h : a * b < wordLimit) : wrappingMul a b = a * b := by
  exact wrap_of_lt h

theorem foldl_wrappingAdd (counts : List Nat) (start : Nat)
    : counts.foldl wrappingAdd (wrap start) = wrap (start + counts.sum) := by
  induction counts generalizing start with
  | nil => rfl
  | cons count counts ih =>
    rw [List.foldl_cons, wrappingAdd, wrap_wrap_add, ih, List.sum_cons, Nat.add_assoc]

theorem wrappingTotal_eq (counts : List Nat) : wrappingTotal counts = wrap counts.sum := by
  have h := foldl_wrappingAdd counts 0
  rw [Nat.zero_add] at h
  exact h

theorem mul?_eq_some {c : Nat} : mul? a b = some c ↔ a * b < wordLimit ∧ a * b = c := by
  unfold mul?
  split <;> simp [*]

def IsSigned (i : Int) : Prop :=
  -maxSigned - 1 ≤ i ∧ i ≤ maxSigned

theorem signedWrap_of_isSigned (h : IsSigned i) : signedWrap i = i := by
  obtain ⟨hlow, hhigh⟩ := h
  unfold maxSigned at hlow hhigh
  unfold signedWrap wordLimit
  rw [Int.bmod_eq_of_le] <;> omega

theorem signedWrap_signedWrap (i : Int) : signedWrap (signedWrap i) = signedWrap i := by
  exact Int.bmod_bmod

theorem signedWrap_signedWrap_add (i j : Int)
    : signedWrap (signedWrap i + j) = signedWrap (i + j) := by
  exact Int.bmod_add_bmod

theorem signedWrap_add_signedWrap (i j : Int)
    : signedWrap (i + signedWrap j) = signedWrap (i + j) := by
  exact Int.add_bmod_bmod

theorem signedWrap_neg (h : j = -i) : signedWrap j = signedWrap (-signedWrap i) := by
  rw [h]
  exact Int.bmod_neg_bmod.symm

theorem foldl_signedWrappingAdd (amounts : List Int) (start : Int)
    : amounts.foldl signedWrappingAdd (signedWrap start) = signedWrap (start + amounts.sum) := by
  induction amounts generalizing start with
  | nil => simp
  | cons amount amounts ih =>
    rw [List.foldl_cons, signedWrappingAdd, signedWrap_signedWrap_add, ih, List.sum_cons,
      Int.add_assoc]

theorem signedWrappingTotal_eq (amounts : List Int)
    : signedWrappingTotal amounts = signedWrap amounts.sum := by
  have h := foldl_signedWrappingAdd amounts 0
  rw [Int.zero_add] at h
  exact h

end Wrap

section Signed

variable {α : Type} {before after : Nat}

theorem toSigned_of_le {count : Nat} (h : count ≤ maxSigned) : toSigned count = count := by
  unfold toSigned
  omega

theorem delta_of_le (hbefore : before ≤ maxSigned) (hafter : after ≤ maxSigned)
    : delta before after = after - before := by
  unfold delta
  rw [toSigned_of_le hbefore, toSigned_of_le hafter]

theorem signedAdd_of_mem_range {a b : Int} (hlow : -maxSigned ≤ a + b) (hhigh : a + b ≤ maxSigned)
    : signedAdd a b = a + b := by
  unfold signedAdd
  omega

theorem foldl_signedAdd_delta (f g : α → Nat) (xs : List α) (b a : Nat)
    (hb : b + (xs.map f).sum ≤ maxSigned) (ha : a + (xs.map g).sum ≤ maxSigned)
    : (xs.map fun x => delta (f x) (g x)).foldl signedAdd ((a : Int) - b)
        = ((a + (xs.map g).sum : Nat) : Int) - (b + (xs.map f).sum : Nat) := by
  induction xs generalizing b a with
  | nil => simp
  | cons x xs ih =>
    rw [List.map_cons, List.sum_cons] at hb ha
    have hdelta : delta (f x) (g x) = g x - f x := delta_of_le (by omega) (by omega)
    -- A partial sum is the difference of two counts in range, so adding never clamps.
    have hstep : signedAdd ((a : Int) - b) (delta (f x) (g x))
        = ((a + g x : Nat) : Int) - (b + f x : Nat) := by
      rw [hdelta, signedAdd_of_mem_range (by omega) (by omega)]
      omega
    rw [List.map_cons, List.foldl_cons, hstep, ih _ _ (by omega) (by omega)]
    simp only [List.map_cons, List.sum_cons, Nat.add_assoc]

theorem sum_delta (f g : α → Nat) (xs : List α)
    (hf : (xs.map f).sum ≤ maxSigned) (hg : (xs.map g).sum ≤ maxSigned)
    : (xs.map fun x => delta (f x) (g x)).sum = ((xs.map g).sum : Int) - (xs.map f).sum := by
  induction xs with
  | nil => rfl
  | cons x xs ih =>
    simp only [List.map_cons, List.sum_cons] at hf hg ⊢
    rw [ih (by omega) (by omega), delta_of_le (by omega) (by omega)]
    omega

theorem signedTotal_delta (f g : α → Nat) (xs : List α)
    (hf : (xs.map f).sum ≤ maxSigned) (hg : (xs.map g).sum ≤ maxSigned)
    : signedTotal (xs.map fun x => delta (f x) (g x))
        = ((xs.map g).sum : Int) - (xs.map f).sum := by
  have h := foldl_signedAdd_delta f g xs 0 0 (by omega) (by omega)
  rw [Nat.zero_add, Nat.zero_add] at h
  exact h

end Signed

end Quantity
end Footprint
