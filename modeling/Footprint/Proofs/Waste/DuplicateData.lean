import Footprint.Proofs.Pass
import Footprint.Proofs.Quantity
import Footprint.Proofs.Waste.Candidates
import Mathlib.Algebra.Order.Group.Nat

namespace Footprint
namespace DuplicateData

variable {s : Snapshot} {c : Copies}

def areAlike (first second : StaticData) : Bool :=
  first.name = second.name && first.size = second.size
    && first.virtualSize = second.virtualSize && first.bytes = second.bytes

def built (s : Snapshot) : List Copies :=
  (dataClasses s).flatMap fun data => (data.foldl Candidates.take .empty).copied

def Among (c : Copies) (s : Snapshot) : Prop :=
  (c.symbol.size ≠ 0 ∨ c.symbol.virtualSize ≠ 0)
    ∧ ∃ rest, s.staticData.filter (areAlike c.symbol) = c.symbol :: rest
      ∧ (∃ d ∈ rest, d.rva ≠ c.symbol.rva)
      ∧ c = .gathered c.symbol rest

def roomTaking (s : Snapshot) : List StaticData :=
  s.staticData.filter fun d => d.size ≠ 0 || d.virtualSize ≠ 0

def nameAndSizes (d : StaticData) : String × Nat × Nat :=
  (d.name, d.size, d.virtualSize)

def group (s : Snapshot) (k : String × Nat × Nat) : List StaticData :=
  (roomTaking s).filter (nameAndSizes · = k)

theorem mem_roomTaking {d : StaticData}
    : d ∈ roomTaking s ↔ d ∈ s.staticData ∧ (d.size ≠ 0 ∨ d.virtualSize ≠ 0) := by
  unfold roomTaking
  simp [List.mem_filter]

theorem mem_group {d : StaticData} {k : String × Nat × Nat}
    : d ∈ group s k ↔ d ∈ roomTaking s ∧ nameAndSizes d = k := by
  unfold group
  rw [List.mem_filter, decide_eq_true_eq]

theorem dataClasses_eq (s : Snapshot)
    : dataClasses s = (firstSeen ((roomTaking s).map nameAndSizes)).map (group s) := by
  unfold dataClasses classes
  rw [List.map_map]
  rfl

theorem built_eq (s : Snapshot)
    : built s = (firstSeen ((roomTaking s).map nameAndSizes)).flatMap fun k =>
        ((group s k).foldl Candidates.take .empty).copied := by
  unfold built
  rw [dataClasses_eq, List.flatMap_map]

theorem filter_group {d : StaticData} (hroom : d.size ≠ 0 ∨ d.virtualSize ≠ 0)
    : (group s (nameAndSizes d)).filter (·.bytes = d.bytes)
        = s.staticData.filter (areAlike d) := by
  unfold group roomTaking
  rw [List.filter_filter, List.filter_filter]
  apply List.filter_congr
  intro e _
  unfold areAlike nameAndSizes
  grind

theorem mem_built : c ∈ built s ↔ Among c s := by
  unfold Among
  simp only [built_eq, List.mem_flatMap, mem_firstSeen, Candidates.mem_copied_foldl_take]
  constructor
  . intro ⟨k, _, rest, hfilter, hsome, hgathered⟩
    obtain ⟨hmem, rfl⟩ := mem_group.1 (of_filter_eq_cons hfilter).1
    have hroom := (mem_roomTaking.1 hmem).2
    rw [filter_group hroom] at hfilter
    exact ⟨hroom, rest, hfilter, hsome, hgathered⟩
  . intro ⟨hroom, rest, hfilter, hsome, hgathered⟩
    have hmem := mem_roomTaking.2 ⟨(of_filter_eq_cons hfilter).1, hroom⟩
    rw [← filter_group hroom] at hfilter
    exact ⟨nameAndSizes c.symbol, List.mem_map_of_mem hmem, rest, hfilter, hsome, hgathered⟩

theorem size_mul_length_le (h : c ∈ built s)
    : c.symbol.size * c.referencedIn.length ≤ (s.staticData.map (·.size)).sum := by
  -- Each compiland has a piece of that size, so there are no more copies than pieces.
  have ⟨_, rest, hfilter, _, hgathered⟩ := mem_built.1 h
  have hlength : c.referencedIn.length ≤ (c.symbol :: rest).length := by
    rw [hgathered]
    apply (length_firstSeen_le _).trans
    rw [List.length_map, List.length_cons, List.length_cons]
    exact Nat.succ_le_succ (List.length_filter_le _ rest)
  have hsizes : ∀ d ∈ c.symbol :: rest, d.size = c.symbol.size := by
    intro d hd
    rw [← hfilter, List.mem_filter] at hd
    have halike := hd.2
    unfold areAlike at halike
    grind
  calc c.symbol.size * c.referencedIn.length
    _ ≤ c.symbol.size * (c.symbol :: rest).length := Nat.mul_le_mul_left _ hlength
    _ = ((c.symbol :: rest).map (·.size)).sum := by
      rw [List.map_congr_left hsizes, List.map_const', List.sum_replicate_nat, Nat.mul_comm]
    _ ≤ (s.staticData.map (·.size)).sum := by
      rw [← hfilter]
      apply List.Sublist.sum_le_sum
      . exact List.filter_sublist.map _
      . simp

section Find

theorem result_find (s : Snapshot)
    : (find s).result = ((dataClasses s).mapM inClass).map List.flatten := by
  unfold find
  rw [Pass.result_bind, Sweep.result_run _ fun sweep (data : List StaticData) =>
    Sweep.exists_result_advanceEach sweep data.length, Except.foldlM_append]
  cases (dataClasses s).mapM inClass <;> rfl

theorem finish_eq (c : Copies)
    : c.finish
        = if c.symbol.size * c.referencedIn.length < wordLimit
            ∧ c.symbol.virtualSize * c.referencedIn.length < wordLimit then
          .ok {
            symbol := c.symbol
            referencedIn := c.referencedIn.mergeSort
            totalSize := c.symbol.size * c.referencedIn.length
            totalVirtualSize := c.symbol.virtualSize * c.referencedIn.length
            wastedSize := c.symbol.size * (c.referencedIn.length - 1) }
        else .error (.sanity (.copiesOverflow c.referencedIn.length c.symbol.name)) := by
  unfold Copies.finish Quantity.mul?
  dsimp only
  split_ifs <;> simp_all

theorem finish_of_lt (hsize : c.symbol.size * c.referencedIn.length < wordLimit)
    (hvirtual : c.symbol.virtualSize * c.referencedIn.length < wordLimit)
    : ∃ item, c.finish = .ok item := by
  rw [finish_eq, if_pos ⟨hsize, hvirtual⟩]
  exact ⟨_, rfl⟩

theorem finish_of_sorted (hsorted : c.referencedIn.Pairwise (· ≤ ·))
    (hsize : c.symbol.size * c.referencedIn.length < wordLimit)
    (hvirtual : c.symbol.virtualSize * c.referencedIn.length < wordLimit)
    : c.finish = .ok {
        symbol := c.symbol
        referencedIn := c.referencedIn
        totalSize := c.symbol.size * c.referencedIn.length
        totalVirtualSize := c.symbol.virtualSize * c.referencedIn.length
        wastedSize := c.symbol.size * (c.referencedIn.length - 1) } := by
  rw [finish_eq, if_pos ⟨hsize, hvirtual⟩, List.mergeSort_of_pairwise]
  simpa using hsorted

theorem finish_of_le (h : wordLimit ≤ c.symbol.virtualSize * c.referencedIn.length)
    : c.finish = .error (.sanity (.copiesOverflow c.referencedIn.length c.symbol.name)) := by
  rw [finish_eq, if_neg]
  exact fun hlt => Nat.not_lt.2 h hlt.2

theorem inClass_eq_ok {data : List StaticData}
    : (∃ items, inClass data = .ok items)
        ↔ ∀ c ∈ (data.foldl Candidates.take .empty).copied, ∃ item, c.finish = .ok item := by
  unfold inClass
  rw [← Except.exists_mapM_eq_ok]
  constructor
  . intro ⟨_, h⟩
    have ⟨items, hitems, _⟩ := Except.bind_eq_ok.1 h
    exact ⟨items, hitems⟩
  . intro ⟨items, hitems⟩
    rw [hitems]
    exact ⟨_, rfl⟩

theorem inClass_eq_error {data : List StaticData} {e : AnalysisError}
    (h : inClass data = .error e)
    : ∃ c ∈ (data.foldl Candidates.take .empty).copied, c.finish = .error e := by
  unfold inClass at h
  rw [Except.bind_eq_error] at h
  rcases h with h | ⟨_, _, h⟩
  . exact Except.exists_of_mapM_eq_error h
  . cases h

theorem exists_find
    : (∃ items, (find s).result = .ok items) ↔ ∀ c ∈ built s, ∃ item, c.finish = .ok item := by
  have hclasses : (∃ items, (find s).result = .ok items)
      ↔ ∃ items, (dataClasses s).mapM inClass = .ok items := by
    rw [result_find]
    cases (dataClasses s).mapM inClass <;> simp [Except.map]
  rw [hclasses, Except.exists_mapM_eq_ok]
  unfold built
  simp only [inClass_eq_ok, List.mem_flatMap, forall_exists_index, and_imp]
  constructor
  . intro h c data hdata hc
    exact h data hdata c hc
  . intro h data hdata c hc
    exact h c data hdata hc

theorem find_eq_error {e : AnalysisError} (h : (find s).result = .error e)
    : ∃ c ∈ built s, c.finish = .error e := by
  rw [result_find] at h
  cases hmap : (dataClasses s).mapM inClass with
  | ok items =>
    rw [hmap] at h
    cases h
  | error cause =>
    rw [hmap] at h
    cases h
    have ⟨data, hdata, hclass⟩ := Except.exists_of_mapM_eq_error hmap
    have ⟨c, hc, hfinish⟩ := inClass_eq_error hclass
    exact ⟨c, List.mem_flatMap.2 ⟨data, hdata, hc⟩, hfinish⟩

end Find

end DuplicateData
end Footprint
