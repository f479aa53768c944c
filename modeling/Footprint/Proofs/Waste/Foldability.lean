import Footprint.Proofs.Pass
import Footprint.Proofs.Quantity
import Footprint.Waste.Foldability
import Mathlib.Algebra.Order.Group.Nat

namespace Footprint
namespace Foldability

variable {s : Snapshot} {symbols : List TemplatedFunction} {f : TemplatedFunction}

theorem foldl_unique_sublist (start symbols : List TemplatedFunction)
    : (symbols.foldl
          (fun unique f =>
            if f.isFolded || unique.any (covers · f.rva) then unique else unique ++ [f])
          start).Sublist (start ++ symbols) := by
  induction symbols generalizing start with
  | nil => simp
  | cons f symbols ih =>
    rw [List.foldl_cons]
    apply (ih _).trans
    split
    . exact (List.sublist_cons_self f symbols).append_left start
    . rw [List.append_assoc, List.singleton_append]

theorem uniqueAmong_sublist (symbols : List TemplatedFunction)
    : (uniqueAmong symbols).Sublist symbols := by
  apply foldl_unique_sublist

theorem end_lt_of_mem_uniqueAmong (hends : ∀ f ∈ symbols, f.rva + f.size < wordLimit)
    : ∀ f ∈ uniqueAmong symbols, f.rva + f.size < wordLimit := by
  intro f hf
  apply hends
  exact (uniqueAmong_sublist symbols).subset hf

theorem codeEnd_sub_rva (h : f.rva + f.size < wordLimit) : codeEnd f - f.rva = f.size := by
  unfold codeEnd Quantity.saturatingAdd
  omega

theorem codeSize_eq_ok_iff {unique : List TemplatedFunction} {total : Nat}
    (hends : ∀ f ∈ unique, f.rva + f.size < wordLimit)
    : codeSize symbols unique = .ok total
        ↔ (unique.map (·.size)).sum < wordLimit ∧ (unique.map (·.size)).sum = total := by
  have hsizes : unique.map (fun f => codeEnd f - f.rva) = unique.map (·.size) := by
    apply List.map_congr_left
    intro f hf
    exact codeEnd_sub_rva (hends f hf)
  rw [← Quantity.total?_eq_some]
  unfold codeSize
  rw [hsizes]
  cases Quantity.total? (unique.map (·.size)) with
  | none => simp
  | some size => simp

theorem sum_size_uniqueAmong_le (symbols : List TemplatedFunction)
    : ((uniqueAmong symbols).map (·.size)).sum ≤ (symbols.map (·.size)).sum := by
  apply List.Sublist.sum_le_sum
  . exact (uniqueAmong_sublist symbols).map _
  . simp

theorem exists_codeSize (hends : ∀ f ∈ symbols, f.rva + f.size < wordLimit)
    (htotal : (symbols.map (·.size)).sum < wordLimit)
    : ∃ size, codeSize symbols (uniqueAmong symbols) = .ok size := by
  have hle := sum_size_uniqueAmong_le symbols
  simp only [codeSize_eq_ok_iff (end_lt_of_mem_uniqueAmong hends)]
  exact ⟨_, by omega, rfl⟩

theorem templates_eq (s : Snapshot)
    : templates s = classes Name.genericFunction s.templatedFunctions := by
  unfold templates classes
  simp only [List.map_map, List.filter_map, Function.comp_def, List.map_id']

theorem functions_of_mem_templates {group : String × List TemplatedFunction}
    (h : group ∈ templates s)
    : group.2 = s.templatedFunctions.filter (Name.genericFunction · = group.1) := by
  rw [templates_eq] at h
  obtain ⟨name, _, rfl⟩ := List.mem_map.1 h
  rfl

theorem sublist_of_mem_templates {group : String × List TemplatedFunction}
    (h : group ∈ templates s)
    : group.2.Sublist s.templatedFunctions := by
  rw [functions_of_mem_templates h]
  exact List.filter_sublist

theorem result_find (similarity : Similarity) (s : Snapshot)
    : (find similarity s).result
        = (templates s).foldlM (Findings.take similarity) ⟨[], []⟩ := by
  unfold find
  rw [Pass.result_bind_of_ok (Pass.result_report _), Pass.result_bind_of_ok Pass.result_checkpoint,
    Pass.result_bind, Sweep.result_run _ fun sweep (group : String × List TemplatedFunction) =>
      Sweep.exists_result_advance sweep group.2.length]
  cases (templates s).foldlM (Findings.take similarity) ⟨[], []⟩ <;> rfl

def answers (similarity : Similarity)
    : Nat → List (TemplatedFunction × TemplatedFunction) → List Float32
  | _, [] => []
  | earlier, (f, g) :: calls => similarity earlier f g :: answers similarity (earlier + 1) calls

def meanOf (answers : List Float32) : Float32 :=
  if answers.isEmpty then 1 else answers.foldl (· + ·) (-0.0) / toBinary32 answers.length

theorem run_mapM_compare (similarity : Similarity)
    (calls compared : List (TemplatedFunction × TemplatedFunction))
    : (calls.mapM fun call => compare similarity call.1 call.2).run compared
        = (answers similarity compared.length calls, compared ++ calls) := by
  induction calls generalizing compared with
  | nil =>
    rw [List.append_nil]
    rfl
  | cons call calls ih =>
    have hrest := ih (compared ++ [call])
    rw [List.length_append, List.length_singleton, List.append_assoc] at hrest
    rw [List.mapM_cons, StateT.run_bind]
    show ((calls.mapM fun call => compare similarity call.1 call.2) >>= _).run
      (compared ++ [call]) = _
    rw [StateT.run_bind]
    exact congrArg (fun r : List Float32 × _ =>
      (similarity compared.length call.1 call.2 :: r.1, r.2)) hrest

theorem run_meanSimilarity (similarity : Similarity) (symbols : List TemplatedFunction)
    (compared : List (TemplatedFunction × TemplatedFunction))
    : (meanSimilarity similarity symbols).run compared
        = (meanOf (answers similarity compared.length (comparisons symbols)),
          compared ++ comparisons symbols) := by
  unfold meanSimilarity
  dsimp only
  cases comparisons symbols with
  | nil =>
    rw [List.append_nil]
    rfl
  | cons call calls =>
    rw [List.isEmpty_cons, if_neg Bool.false_ne_true, StateT.run_bind, run_mapM_compare]
    rfl

theorem take_eq_ok {similarity : Similarity} {found next : Findings}
    {group : String × List TemplatedFunction}
    : found.take similarity group = .ok next
        ↔ group.2.length = 1 ∧ next = found
          ∨ group.2.length ≠ 1
            ∧ ∃ size, codeSize group.2 (uniqueAmong group.2) = .ok size
              ∧ next = {
                items := found.items ++ [make group.1 group.2 (uniqueAmong group.2) size
                  (meanOf (answers similarity found.compared.length (comparisons group.2)))]
                compared := found.compared ++ comparisons group.2 } := by
  unfold Findings.take
  dsimp only
  split
  . next hsingle =>
    simp [hsingle, pure, Except.pure, eq_comm]
  . next hseveral =>
    simp only [run_meanSimilarity, Except.bind_eq_ok, Except.pure_eq_ok, Except.ok.injEq, hseveral,
      false_and, false_or, not_false_eq_true, true_and, ne_eq, eq_comm (b := next)]

theorem of_foldlM_take_eq_ok {similarity : Similarity} {P : Findings → Prop}
    {groups : List (String × List TemplatedFunction)} {start found : Findings}
    (hfind : ∀ found, P found → ∀ (group : String × List TemplatedFunction) (size : Nat),
      codeSize group.2 (uniqueAmong group.2) = .ok size →
      P {
        items := found.items ++ [make group.1 group.2 (uniqueAmong group.2) size
          (meanOf (answers similarity found.compared.length (comparisons group.2)))]
        compared := found.compared ++ comparisons group.2 })
    (hstart : P start) (h : groups.foldlM (Findings.take similarity) start = .ok found)
    : P found := by
  apply Except.of_foldlM_eq_ok _ hstart h
  intro found hfound group next hnext
  rw [take_eq_ok] at hnext
  cases hnext with
  | inl hsingle =>
    rw [hsingle.2]
    exact hfound
  | inr hseveral =>
    have ⟨_, size, hsize, hnext⟩ := hseveral
    rw [hnext]
    exact hfind found hfound group size hsize

theorem exists_find (similarity : Similarity)
    (h : ∀ group ∈ templates s, ∃ size, codeSize group.2 (uniqueAmong group.2) = .ok size)
    : ∃ found, (find similarity s).result = .ok found := by
  rw [result_find]
  apply Except.exists_foldlM_eq_ok
  intro group hgroup found
  simp only [take_eq_ok]
  by_cases hsingle : group.2.length = 1
  . exact ⟨found, .inl ⟨hsingle, rfl⟩⟩
  . have ⟨size, hsize⟩ := h group hgroup
    exact ⟨_, .inr ⟨hsingle, size, hsize, rfl⟩⟩

end Foldability
end Footprint
