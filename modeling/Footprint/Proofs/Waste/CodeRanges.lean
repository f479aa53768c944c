import Footprint.Proofs.Waste.Foldability
import Mathlib.Data.Finset.Union
import Mathlib.Data.List.Induction
import Mathlib.Order.Interval.Finset.Nat

/-!
This module contains which functions of a template are counted with their code, and how often that
counts an address. A function is left out if it begins in the code of an earlier one, but one that
begins before an earlier one and runs into it is not, so the code is counted once only if there is
no such function.
-/

namespace Footprint
namespace Foldability

variable {symbols unique fs : List TemplatedFunction} {f g : TemplatedFunction} {rva : Nat}

def addresses (f : TemplatedFunction) : Finset Nat :=
  Finset.Ico f.rva (f.rva + f.size)

def addressesOf (fs : List TemplatedFunction) : Finset Nat :=
  fs.toFinset.biUnion addresses

def Apart (f g : TemplatedFunction) : Prop :=
  Disjoint (addresses f) (addresses g)

def RunsInto (g f : TemplatedFunction) : Prop :=
  g.rva < f.rva ∧ f.rva < g.rva + g.size ∧ f.size ≠ 0

instance : Decidable (Apart f g) :=
  inferInstanceAs (Decidable (Disjoint _ _))

instance : Decidable (RunsInto g f) :=
  inferInstanceAs (Decidable (_ ∧ _ ∧ _))

theorem mem_addresses : rva ∈ addresses f ↔ f.rva ≤ rva ∧ rva < f.rva + f.size := by
  unfold addresses
  rw [Finset.mem_Ico]

theorem covers_iff (hend : f.rva + f.size < wordLimit)
    : covers f rva = true ↔ rva ∈ addresses f := by
  have hcode := codeEnd_sub_rva hend
  rw [mem_addresses]
  unfold covers
  rw [Bool.and_eq_true, decide_eq_true_iff, decide_eq_true_iff]
  omega

theorem apart_iff (h : g.rva ∉ addresses f) : Apart f g ↔ ¬RunsInto g f := by
  unfold Apart RunsInto
  rw [Finset.disjoint_left]
  simp only [mem_addresses] at h ⊢
  constructor
  . intro hdisjoint hinto
    apply hdisjoint (a := f.rva)
    . omega
    . omega
  . intro hnot address hf hg
    omega

section Count

theorem card_addresses (f : TemplatedFunction) : (addresses f).card = f.size := by
  unfold addresses
  rw [Nat.card_Ico]
  omega

theorem addressesOf_cons (f : TemplatedFunction) (fs : List TemplatedFunction)
    : addressesOf (f :: fs) = addresses f ∪ addressesOf fs := by
  unfold addressesOf
  rw [List.toFinset_cons, Finset.biUnion_insert]

theorem disjoint_addressesOf
    : Disjoint (addresses f) (addressesOf fs) ↔ ∀ g ∈ fs, Apart f g := by
  unfold addressesOf
  rw [Finset.disjoint_biUnion_right]
  simp only [List.mem_toFinset]
  rfl

theorem card_addressesOf_le (fs : List TemplatedFunction)
    : (addressesOf fs).card ≤ (fs.map (·.size)).sum := by
  induction fs with
  | nil => rfl
  | cons f fs ih =>
    rw [addressesOf_cons, List.map_cons, List.sum_cons]
    apply (Finset.card_union_le _ _).trans
    rw [card_addresses]
    omega

theorem card_addressesOf_eq_iff (fs : List TemplatedFunction)
    : (addressesOf fs).card = (fs.map (·.size)).sum ↔ fs.Pairwise Apart := by
  induction fs with
  | nil => simp [addressesOf]
  | cons f fs ih =>
    rw [List.pairwise_cons, ← ih, ← disjoint_addressesOf, addressesOf_cons, List.map_cons,
      List.sum_cons, ← Finset.card_union_eq_card_add_card, card_addresses]
    have hle := card_addressesOf_le fs
    have hunion := Finset.card_union_le (addresses f) (addressesOf fs)
    rw [card_addresses] at hunion
    omega

theorem card_addressesOf_lt (hends : ∀ f ∈ fs, f.rva + f.size < wordLimit)
    : (addressesOf fs).card < wordLimit := by
  have hsubset : addressesOf fs ⊆ Finset.range (wordLimit - 1) := by
    unfold addressesOf
    rw [Finset.biUnion_subset]
    intro f hf address haddress
    have hend := hends f (List.mem_toFinset.1 hf)
    rw [mem_addresses] at haddress
    rw [Finset.mem_range]
    omega
  have hle := Finset.card_le_card hsubset
  rw [Finset.card_range] at hle
  have hpos : 0 < wordLimit := by decide
  omega

theorem codeSize_eq_card_iff (hends : ∀ f ∈ unique, f.rva + f.size < wordLimit)
    : codeSize symbols unique = .ok (addressesOf unique).card ↔ unique.Pairwise Apart := by
  rw [codeSize_eq_ok_iff hends, ← card_addressesOf_eq_iff]
  constructor
  . intro ⟨_, hsum⟩
    exact hsum.symm
  . intro hcard
    rw [← hcard]
    exact ⟨card_addressesOf_lt hends, rfl⟩

end Count

section Selection

/--
Whether functions are the unique ones of a template, told by their places. None of them begins in
the code of an earlier one of them, and what is left out is folded or begins in such code.
-/
structure IsSelection (symbols unique : List TemplatedFunction)
    (chosen : List (TemplatedFunction × Nat)) : Prop where
  inPlace : chosen.Sublist symbols.zipIdx
  functions : chosen.map Prod.fst = unique
  notFolded : ∀ p ∈ chosen, p.1.isFolded = false
  outside : chosen.Pairwise fun p q => q.1.rva ∉ addresses p.1
  leftOut : ∀ q ∈ symbols.zipIdx, q.1.isFolded = false → q ∉ chosen →
    ∃ p ∈ chosen, p.2 < q.2 ∧ q.1.rva ∈ addresses p.1

theorem uniqueAmong_append_singleton (symbols : List TemplatedFunction) (f : TemplatedFunction)
    : uniqueAmong (symbols ++ [f])
        = if f.isFolded || (uniqueAmong symbols).any (covers · f.rva) then uniqueAmong symbols
          else uniqueAmong symbols ++ [f] := by
  unfold uniqueAmong
  rw [List.foldl_append]
  rfl

theorem zipIdx_append_singleton (symbols : List TemplatedFunction) (f : TemplatedFunction)
    : (symbols ++ [f]).zipIdx = symbols.zipIdx ++ [(f, symbols.length)] := by
  simp [List.zipIdx_append]

variable {chosen : List (TemplatedFunction × Nat)}

namespace IsSelection

theorem of_leaving_out (h : IsSelection symbols unique chosen)
    (hf : f.isFolded = false → ∃ g ∈ unique, f.rva ∈ addresses g)
    : IsSelection (symbols ++ [f]) unique chosen where
  inPlace := by
    rw [zipIdx_append_singleton]
    exact h.inPlace.trans (List.sublist_append_left _ _)
  functions := h.functions
  notFolded := h.notFolded
  outside := h.outside
  leftOut := by
    intro q hq hfolded hnot
    rw [zipIdx_append_singleton, List.mem_append, List.mem_singleton] at hq
    cases hq with
    | inl hq => exact h.leftOut q hq hfolded hnot
    | inr hq =>
      subst hq
      have ⟨g, hg, hbegins⟩ := hf hfolded
      rw [← h.functions, List.mem_map] at hg
      have ⟨p, hp, hpg⟩ := hg
      subst hpg
      refine ⟨p, hp, ?_, hbegins⟩
      have hplace := List.snd_lt_add_of_mem_zipIdx (h.inPlace.subset hp)
      omega

theorem of_choosing (h : IsSelection symbols unique chosen) (hfolded : f.isFolded = false)
    (hf : ∀ g ∈ unique, f.rva ∉ addresses g)
    : IsSelection (symbols ++ [f]) (unique ++ [f]) (chosen ++ [(f, symbols.length)]) where
  inPlace := by
    rw [zipIdx_append_singleton]
    exact h.inPlace.append_right _
  functions := by
    rw [List.map_append, h.functions]
    rfl
  notFolded := by
    intro p hp
    rw [List.mem_append, List.mem_singleton] at hp
    cases hp with
    | inl hp => exact h.notFolded p hp
    | inr hp => rw [hp, hfolded]
  outside := by
    rw [List.pairwise_append]
    refine ⟨h.outside, List.pairwise_singleton _ _, ?_⟩
    intro p hp q hq
    rw [List.mem_singleton.1 hq]
    apply hf
    rw [← h.functions]
    exact List.mem_map_of_mem hp
  leftOut := by
    intro q hq hfolded hnot
    rw [List.mem_append, not_or] at hnot
    rw [zipIdx_append_singleton, List.mem_append] at hq
    have ⟨p, hp, hbefore, hbegins⟩ := h.leftOut q (hq.resolve_right hnot.2) hfolded hnot.1
    exact ⟨p, List.mem_append_left _ hp, hbefore, hbegins⟩

end IsSelection

theorem exists_isSelection (hends : ∀ f ∈ symbols, f.rva + f.size < wordLimit)
    : ∃ chosen, IsSelection symbols (uniqueAmong symbols) chosen := by
  -- The functions are gone through from the first to the last.
  induction symbols using List.reverseRecOn with
  | nil => exact ⟨[], by simp, rfl, by simp, by simp, by simp⟩
  | append_singleton symbols f ih =>
    have hends' : ∀ g ∈ symbols, g.rva + g.size < wordLimit :=
      fun g hg => hends g (List.mem_append_left _ hg)
    have ⟨chosen, h⟩ := ih hends'
    have hcovers : (uniqueAmong symbols).any (covers · f.rva) = true
        ↔ ∃ g ∈ uniqueAmong symbols, f.rva ∈ addresses g := by
      rw [List.any_eq_true]
      apply exists_congr
      intro g
      apply and_congr_right
      intro hg
      exact covers_iff (end_lt_of_mem_uniqueAmong hends' g hg)
    rw [uniqueAmong_append_singleton]
    split
    . next hout =>
      refine ⟨chosen, h.of_leaving_out ?_⟩
      intro hfolded
      rw [hfolded, Bool.false_or, hcovers] at hout
      exact hout
    . next hin =>
      rw [Bool.or_eq_true, not_or, hcovers] at hin
      refine ⟨_, h.of_choosing (Bool.eq_false_iff.2 hin.1) ?_⟩
      intro g hg hbegins
      exact hin.2 ⟨g, hg, hbegins⟩

theorem pairwise_uniqueAmong (hends : ∀ f ∈ symbols, f.rva + f.size < wordLimit)
    : (uniqueAmong symbols).Pairwise fun f g => g.rva ∉ addresses f := by
  have ⟨chosen, h⟩ := exists_isSelection hends
  rw [← h.functions, List.pairwise_map]
  exact h.outside

end Selection

section Once

theorem pairwise_apart_iff (hends : ∀ f ∈ symbols, f.rva + f.size < wordLimit)
    : (uniqueAmong symbols).Pairwise Apart
        ↔ (uniqueAmong symbols).Pairwise fun f g => ¬RunsInto g f := by
  have houtside := pairwise_uniqueAmong hends
  constructor
  . intro hapart
    apply (houtside.and hapart).imp
    intro f g ⟨hout, h⟩
    exact (apart_iff hout).1 h
  . intro hnot
    apply (houtside.and hnot).imp
    intro f g ⟨hout, h⟩
    exact (apart_iff hout).2 h

theorem pairwise_apart_of_sorted (hends : ∀ f ∈ symbols, f.rva + f.size < wordLimit)
    (hsorted : symbols.Pairwise (·.rva ≤ ·.rva))
    : (uniqueAmong symbols).Pairwise Apart := by
  rw [pairwise_apart_iff hends]
  apply (hsorted.sublist (uniqueAmong_sublist symbols)).imp
  intro f g hle hinto
  exact absurd hinto.1 (Nat.not_lt.2 hle)

theorem code_counted_once_iff (hends : ∀ f ∈ symbols, f.rva + f.size < wordLimit)
    : (codeSize symbols (uniqueAmong symbols) = .ok (addressesOf (uniqueAmong symbols)).card
          ↔ (uniqueAmong symbols).Pairwise Apart)
      ∧ ((uniqueAmong symbols).Pairwise Apart
          ↔ (uniqueAmong symbols).Pairwise fun f g => ¬RunsInto g f)
      ∧ (∀ total, codeSize symbols (uniqueAmong symbols) = .ok total →
          (addressesOf (uniqueAmong symbols)).card ≤ total)
      ∧ (symbols.Pairwise (·.rva ≤ ·.rva) → (uniqueAmong symbols).Pairwise Apart) := by
  have hends' := end_lt_of_mem_uniqueAmong hends
  refine ⟨codeSize_eq_card_iff hends', pairwise_apart_iff hends, ?_,
    pairwise_apart_of_sorted hends⟩
  intro total htotal
  have ⟨_, hsum⟩ := (codeSize_eq_ok_iff hends').1 htotal
  rw [← hsum]
  exact card_addressesOf_le _

def codeAt (name : String) (rva size : Nat) : TemplatedFunction where
  name := name
  rva := rva
  size := size

def outer : TemplatedFunction :=
  codeAt "Visit<int>" 16 8

def inner : TemplatedFunction :=
  codeAt "Visit<bool>" 20 2

theorem code_counted_once_iff_outer
    : uniqueAmong [outer, inner] = [outer] ∧ addressesOf [outer] = {16, 17, 18, 19, 20, 21, 22, 23}
      ∧ codeSize [outer, inner] (uniqueAmong [outer, inner])
        = .ok (addressesOf (uniqueAmong [outer, inner])).card := by
  have hends : ∀ f ∈ [outer, inner], f.rva + f.size < wordLimit := by decide
  have ⟨hcounted, _, _, hsorted⟩ := code_counted_once_iff hends
  refine ⟨by decide, by decide, ?_⟩
  rw [hcounted]
  apply hsorted
  decide

theorem code_counted_twice_inner
    : (∀ f ∈ [inner, outer], f.rva + f.size < wordLimit)
      ∧ uniqueAmong [inner, outer] = [inner, outer]
      ∧ ¬[inner, outer].Pairwise Apart
      ∧ codeSize [inner, outer] [inner, outer] = .ok 10
      ∧ (addressesOf [inner, outer]).card = 8 := by
  -- The later function begins before the earlier one, so its start is not covered.
  refine ⟨by decide, by decide, by decide, by decide, by decide⟩

end Once

end Foldability
end Footprint
