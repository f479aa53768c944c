import Footprint.Proofs.Waste.Reordering

namespace Footprint

variable {data : StaticData} {names carriers : List String}

structure DuplicateData.CopiedIn (item : DuplicateData) (data : StaticData)
    (compilands : Finset String) : Prop where
  symbol : item.symbol = data
  increasing : item.referencedIn.Pairwise (utf8 · < utf8 ·)
  mem (compiland : String) : compiland ∈ item.referencedIn ↔ compiland ∈ compilands
  totalSize : item.totalSize = data.size * compilands.card
  totalVirtualSize : item.totalVirtualSize = data.virtualSize * compilands.card
  wastedSize : item.wastedSize = item.totalSize - data.size
  multiplied : item.wastedSize = data.size * (compilands.card - 1)
    ∧ data.size * (compilands.card - 1) < wordLimit

namespace DuplicateData

theorem ofCarriers_eq_of_perm (h : names.Perm carriers)
    : ofCarriers data names = ofCarriers data carriers := by
  have hnames : (ofCarriers data names).referencedIn = (ofCarriers data carriers).referencedIn :=
    referencedIn_ofCarriers_eq_iff.2 h
  unfold ofCarriers at hnames ⊢
  dsimp only at hnames
  rw [hnames, h.length_eq]

theorem increasing_ofCarriers (h : names.Nodup)
    : (ofCarriers data names).referencedIn.Pairwise (utf8 · < utf8 ·) := by
  unfold ofCarriers
  dsimp only
  rw [mergeSort_utf8]
  have hnodup : (names.mergeSort (· ≤ ·)).Nodup := (names.mergeSort_perm _).nodup_iff.2 h
  exact (List.sortedLE_mergeSort.sortedLT_of_nodup hnodup).pairwise.imp utf8_lt_utf8

theorem copiedIn_ofCarriers (h : names.Nodup) (hsize : data.size * names.length < wordLimit)
    : (ofCarriers data names).CopiedIn data names.toFinset := by
  have hcard := List.toFinset_card_of_nodup h
  constructor
  case symbol => rfl
  case increasing => exact increasing_ofCarriers h
  case mem =>
    intro compiland
    rw [mem_referencedIn_ofCarriers, List.mem_toFinset]
  case totalSize => rw [hcard, ofCarriers]
  case totalVirtualSize => rw [hcard, ofCarriers]
  case wastedSize => exact Nat.mul_sub_one data.size names.length
  case multiplied =>
    rw [hcard]
    exact ⟨rfl, (Nat.mul_le_mul_left _ (Nat.sub_le _ _)).trans_lt hsize⟩

end DuplicateData

namespace Copies

def inEach (data : StaticData) (first : String) (added : List String) : Copies :=
  added.foldl add (start data first)

theorem inEach_eq (data : StaticData) (first : String) (added : List String)
    : inEach data first added
        = { symbol := data, referencedIn := firstSeen (first :: added) } := by
  unfold inEach
  induction added using List.reverseRecOn with
  | nil => rfl
  | append_singleton added compiland ih =>
    rw [List.foldl_append, List.foldl_cons, List.foldl_nil, ih, add_eq, ← List.cons_append,
      firstSeen_append_singleton]
    simp only [mem_firstSeen]

theorem finish_depends_on_set (data : StaticData) (first : String) (added : List String)
    : (∀ other others, (other :: others).toFinset = (first :: added).toFinset
        → (inEach data other others).finish = (inEach data first added).finish)
      ∧ (∀ e, (inEach data first added).finish = .error e
        ↔ (wordLimit ≤ data.size * (first :: added).toFinset.card
            ∨ wordLimit ≤ data.virtualSize * (first :: added).toFinset.card)
          ∧ e = .sanity (.copiesOverflow (first :: added).toFinset.card data.name))
      ∧ ∀ item, (inEach data first added).finish = .ok item
        → item.CopiedIn data (first :: added).toFinset := by
  have hfinish := DuplicateData.finish_eq_ofCarriers (inEach data first added)
  rw [inEach_eq] at hfinish ⊢
  dsimp only at hfinish
  refine ⟨?_, ?_, ?_⟩
  . intro other others hsame
    have hperm := perm_firstSeen_iff.2 hsame
    rw [inEach_eq, hfinish, DuplicateData.finish_eq_ofCarriers]
    dsimp only
    rw [hperm.length_eq, DuplicateData.ofCarriers_eq_of_perm hperm]
  . intro e
    rw [hfinish, length_firstSeen, ← not_lt, ← not_lt, ← not_and_or]
    split_ifs with hlt
    . simp only [hlt, and_self, not_true, false_and]
    . simp only [hlt, not_false_eq_true, true_and, Except.error.injEq, eq_comm]
  . intro item hitem
    rw [hfinish] at hitem
    split_ifs at hitem with hlt
    cases hitem
    rw [← toFinset_firstSeen]
    exact DuplicateData.copiedIn_ofCarriers (nodup_firstSeen _) hlt.1

def quarter : StaticData where
  name := "table"
  rva := 16
  size := wordLimit / 4
  virtualSize := 8
  compiland := "a.obj"

theorem finish_depends_on_set_quarter
    : (inEach quarter "c.obj" ["a.obj", "b.obj", "a.obj"]).finish
        = (inEach quarter "a.obj" ["c.obj", "b.obj"]).finish
      ∧ (∃ item, (inEach quarter "a.obj" ["c.obj", "b.obj"]).finish = .ok item
        ∧ item.CopiedIn quarter ["a.obj", "c.obj", "b.obj"].toFinset)
      ∧ (inEach quarter "a.obj" ["b.obj", "a.obj", "d.obj", "c.obj"]).finish
        = .error (.sanity (.copiesOverflow 4 "table")) := by
  have ⟨hsame, _, hitem⟩ := finish_depends_on_set quarter "a.obj" ["c.obj", "b.obj"]
  have ⟨_, herror, _⟩ := finish_depends_on_set quarter "a.obj" ["b.obj", "a.obj", "d.obj", "c.obj"]
  refine ⟨hsame _ _ (by decide), ⟨_, rfl, ?_⟩, (herror _).2 (by decide)⟩
  exact hitem _ rfl

end Copies
end Footprint
