import Footprint.Proofs.Completion
import Footprint.Proofs.Waste.Templates

namespace Footprint

section StableSort

variable {α : Type} {key : α → Nat} {xs : List α}

structure IsStableSort (key : α → Nat) (xs sorted : List α) : Prop where
  perm : sorted.Perm xs
  ordered : sorted.Pairwise (key · ≤ key ·)
  stable : ∀ k, sorted.filter (key · = k) = xs.filter (key · = k)

theorem key_le_trans (key : α → Nat) (a b c : α)
    : decide (key a ≤ key b) = true → decide (key b ≤ key c) = true
        → decide (key a ≤ key c) = true := by
  simp only [decide_eq_true_iff]
  exact Nat.le_trans

theorem key_le_total (key : α → Nat) (a b : α)
    : (decide (key a ≤ key b) || decide (key b ≤ key a)) = true := by
  simp only [Bool.or_eq_true, decide_eq_true_iff]
  exact Nat.le_total _ _

theorem filter_key_mergeSort (key : α → Nat) (xs : List α) (k : Nat)
    : (xs.mergeSort (key · ≤ key ·)).filter (key · = k) = xs.filter (key · = k) := by
  have hordered : (xs.filter (key · = k)).Pairwise fun a b => decide (key a ≤ key b) = true := by
    rw [List.pairwise_filter]
    apply List.pairwise_of_forall
    intro a b ha hb
    simp only [decide_eq_true_iff] at ha hb ⊢
    omega
  -- Equal keys are in order already, so they are found in the sorted list as they are.
  have hsublist := (List.sublist_mergeSort (key_le_trans key) (key_le_total key) hordered
    List.filter_sublist).filter (key · = k)
  simp only [List.filter_filter, Bool.and_self] at hsublist
  have hlength := ((List.mergeSort_perm xs (key · ≤ key ·)).filter (key · = k)).length_eq
  exact (hsublist.eq_of_length hlength.symm).symm

theorem isStableSort_mergeSort (key : α → Nat) (xs : List α)
    : IsStableSort key xs (xs.mergeSort (key · ≤ key ·)) where
  perm := List.mergeSort_perm xs _
  ordered := by
    have hsorted := List.pairwise_mergeSort (key_le_trans key) (key_le_total key) xs
    simpa only [decide_eq_true_iff] using hsorted
  stable := filter_key_mergeSort key xs

end StableSort

section Neighbours

variable {α : Type} {x y : α} {xs : List α}

theorem getElem?_zip_tail {i : Nat}
    : (xs.zip xs.tail)[i]? = some (x, y) ↔ xs[i]? = some x ∧ xs[i + 1]? = some y := by
  rw [List.getElem?_zip_eq_some, List.getElem?_tail]

theorem map_fst_zip_tail (xs : List α) : (xs.zip xs.tail).map Prod.fst = xs.dropLast := by
  induction xs with
  | nil => rfl
  | cons x xs ih =>
    cases xs with
    | nil => rfl
    | cons y xs => exact congrArg (x :: ·) ih

theorem map_snd_zip_tail (xs : List α) : (xs.zip xs.tail).map Prod.snd = xs.tail := by
  apply List.map_snd_zip
  rw [List.length_tail]
  omega

variable [DecidableEq α]

theorem count_dropLast (hnodup : xs.Nodup) (hx : x ∈ xs)
    : xs.dropLast.count x = if xs.getLast? = some x then 0 else 1 := by
  have hone := List.count_eq_one_of_mem hnodup hx
  have hlast := List.getLast?_eq_some_getLast (List.ne_nil_of_mem hx)
  rw [← List.dropLast_append_getLast? _ hlast, List.count_append, List.count_singleton] at hone
  simp only [beq_iff_eq] at hone
  simp only [hlast, Option.some.injEq]
  split at hone
  . next h => rw [if_pos h]; omega
  . next h => rw [if_neg h]; omega

theorem count_tail (hnodup : xs.Nodup) (hx : x ∈ xs)
    : xs.tail.count x = if xs.head? = some x then 0 else 1 := by
  have hone := List.count_eq_one_of_mem hnodup hx
  cases xs with
  | nil => cases hx
  | cons y xs =>
    simp only [List.count_cons, beq_iff_eq] at hone
    simp only [List.tail_cons, List.head?_cons, Option.some.injEq]
    split at hone
    . next h => rw [if_pos h]; omega
    . next h => rw [if_neg h]; omega

end Neighbours

namespace Foldability

variable {s : Snapshot} {similarity other : Similarity} {start found next : Findings}
  {group : String × List TemplatedFunction} {groups : List (String × List TemplatedFunction)}
  {calls pairs : List (TemplatedFunction × TemplatedFunction)}

section Calls

def body (f : TemplatedFunction) : Nat × Nat :=
  (f.rva, f.blockCount)

structure ComparesNeighbours (symbols compared : List TemplatedFunction)
    (calls : List (TemplatedFunction × TemplatedFunction)) : Prop where
  sorted : IsStableSort (·.blockCount) (firstOfEach body symbols) compared
  neighbours : ∀ i f g, calls[i]? = some (f, g) ↔ compared[i]? = some f ∧ compared[i + 1]? = some g
  length : calls.length = (symbols.map body).toFinset.card - 1
  asFirst : ∀ f ∈ compared, (calls.map Prod.fst).count f
    = if compared.getLast? = some f then 0 else 1
  asSecond : ∀ f ∈ compared, (calls.map Prod.snd).count f
    = if compared.head? = some f then 0 else 1

theorem isStableSort_representatives (symbols : List TemplatedFunction)
    : IsStableSort (·.blockCount) (firstOfEach body symbols) (representatives symbols) := by
  unfold representatives
  rw [← filterMap_head?_classes]
  apply isStableSort_mergeSort

theorem comparesNeighbours_comparisons (symbols : List TemplatedFunction)
    : ComparesNeighbours symbols (representatives symbols) (comparisons symbols) := by
  have hsorted := isStableSort_representatives symbols
  have hnodup : (representatives symbols).Nodup := by
    apply hsorted.perm.nodup_iff.2
    apply List.Nodup.of_map body
    rw [map_firstOfEach]
    exact nodup_firstSeen _
  have hlength : (representatives symbols).length = (symbols.map body).toFinset.card := by
    rw [hsorted.perm.length_eq, ← List.length_map (f := body), map_firstOfEach, length_firstSeen]
  unfold comparisons
  refine ⟨hsorted, fun _ _ _ => getElem?_zip_tail, ?_, ?_, ?_⟩
  . rw [List.length_zip, List.length_tail, hlength]
    omega
  . intro f hf
    rw [map_fst_zip_tail]
    exact count_dropLast hnodup hf
  . intro f hf
    rw [map_snd_zip_tail]
    exact count_tail hnodup hf

/--
Whether the calls that a search has made are those for its items, item by item, and the similarity
of each item is the mean of the answers to its own calls, which come after those for the items
before.
-/
structure TellsCalls (similarity : Similarity) (found : Findings) : Prop where
  inOrder : found.compared = found.items.flatMap (comparisons ·.symbols)
  means : ∀ i item, found.items[i]? = some item → item.similarity
    = meanOf (answers similarity ((found.items.take i).flatMap (comparisons ·.symbols)).length
      (comparisons item.symbols))

theorem TellsCalls.append (h : TellsCalls similarity found) {item : Foldability}
    (hitem : item.similarity
      = meanOf (answers similarity found.compared.length (comparisons item.symbols)))
    : TellsCalls similarity
        ⟨found.items ++ [item], found.compared ++ comparisons item.symbols⟩ where
  inOrder := by
    rw [h.inOrder, List.flatMap_append, List.flatMap_singleton]
  means := by
    intro i other hother
    dsimp only at hother ⊢
    rw [List.getElem?_append] at hother
    split at hother
    . next hlt =>
      rw [List.take_append_of_le_length (Nat.le_of_lt hlt)]
      exact h.means i other hother
    . next hge =>
      rw [List.getElem?_singleton] at hother
      split at hother
      . next hlast =>
        cases hother
        have hall : i = found.items.length := by omega
        rw [hall, List.take_left, hitem, h.inOrder]
      . cases hother

theorem tellsCalls_find (h : (find similarity s).result = .ok found)
    : TellsCalls similarity found := by
  rw [result_find] at h
  apply of_foldlM_take_eq_ok _ _ h
  . intro found hfound group size _
    apply hfound.append
    rfl
  . constructor
    . rfl
    . intro i item hitem
      cases hitem

end Calls

section Similarity

def AgreeOn (calls : List (TemplatedFunction × TemplatedFunction)) (similarity other : Similarity)
    : Prop :=
  ∀ i f g, calls[i]? = some (f, g) → other i f g = similarity i f g

theorem AgreeOn.of_isPrefix (h : AgreeOn calls similarity other) (hinit : pairs <+: calls)
    : AgreeOn pairs similarity other := by
  intro i f g hi
  have ⟨hlt, hcall⟩ := List.getElem?_eq_some_iff.1 hi
  apply h
  rw [List.prefix_iff_getElem?.1 hinit i hlt, hcall]

theorem AgreeOn.answers_eq (h : AgreeOn (calls ++ pairs) similarity other)
    : answers other calls.length pairs = answers similarity calls.length pairs := by
  induction pairs generalizing calls with
  | nil => rfl
  | cons pair pairs ih =>
    have hfirst : other calls.length pair.1 pair.2 = similarity calls.length pair.1 pair.2 := by
      apply h
      rw [List.getElem?_append_right (Nat.le_refl _), Nat.sub_self]
      rfl
    rw [List.append_cons] at h
    have hrest := ih h
    rw [List.length_append, List.length_singleton] at hrest
    unfold answers
    rw [hfirst, hrest]

theorem AgreeOn.take_eq (h : AgreeOn next.compared similarity other)
    (hnext : start.take similarity group = .ok next)
    : start.take other group = .ok next := by
  rw [take_eq_ok] at hnext ⊢
  apply hnext.imp_right
  intro ⟨hlength, size, hsize, hnext⟩
  rw [hnext] at h
  refine ⟨hlength, size, hsize, ?_⟩
  rw [h.answers_eq, hnext]

theorem isPrefix_compared (h : groups.foldlM (Findings.take similarity) start = .ok found)
    : start.compared <+: found.compared := by
  apply of_foldlM_take_eq_ok _ _ h
  . intro found hfound group _ _
    exact hfound.trans (List.prefix_append _ _)
  . exact List.prefix_refl _

theorem AgreeOn.foldlM_take_eq (h : AgreeOn found.compared similarity other)
    (hfound : groups.foldlM (Findings.take similarity) start = .ok found)
    : groups.foldlM (Findings.take other) start = .ok found := by
  induction groups generalizing start with
  | nil =>
    rw [List.foldlM_nil] at hfound ⊢
    exact hfound
  | cons group groups ih =>
    rw [List.foldlM_cons, Except.bind_eq_ok] at hfound ⊢
    have ⟨next, hnext, hfound⟩ := hfound
    -- The rest only adds calls at the end, so the similarities agree on those made so far.
    have hagree := h.of_isPrefix (isPrefix_compared hfound)
    exact ⟨next, hagree.take_eq hnext, ih hfound⟩

theorem AgreeOn.find_eq (h : AgreeOn found.compared similarity other)
    (hfound : (find similarity s).result = .ok found)
    : (find other s).result = .ok found := by
  rw [result_find] at hfound ⊢
  exact h.foldlM_take_eq hfound

end Similarity

theorem compares_neighbours_only (similarity : Similarity) (hs : s.check = .ok ()) {m : Monitor}
    (hnever : ((find similarity s).run m).2.canceled = false)
    : ∃ found, ((find similarity s).run m).1 = .ok found
      ∧ TellsCalls similarity found
      ∧ (∀ item ∈ found.items, ComparesNeighbours item.symbols (representatives item.symbols)
        (comparisons item.symbols))
      ∧ ∀ other, AgreeOn found.compared similarity other → ∀ m' : Monitor,
        ((find other s).run m').2.canceled = false → ((find other s).run m').1 = .ok found := by
  have ⟨found, hfound⟩ := exists_find similarity fun _ hgroup =>
    Snapshot.exists_codeSize_of_mem_templates hs hgroup
  rw [Pass.run_of_not_canceled hnever]
  refine ⟨found, hfound, tellsCalls_find hfound, ?_, ?_⟩
  . intro item _
    exact comparesNeighbours_comparisons item.symbols
  . intro other hagree m' hnever'
    rw [Pass.run_of_not_canceled hnever']
    exact hagree.find_eq hfound

def bodyAt (name : String) (rva blockCount : Nat) : TemplatedFunction where
  name := name
  rva := rva
  size := 8
  blockCount := blockCount

def drawBodies : List TemplatedFunction :=
  [bodyAt "Draw<int>" 64 2, bodyAt "Draw<bool>" 64 2]

def visitBodies : List TemplatedFunction :=
  [bodyAt "Visit<int>" 16 3, bodyAt "Visit<bool>" 32 1, bodyAt "Visit<char>" 16 3,
    bodyAt "Visit<long>" 48 3, bodyAt "Visit<short>" 16 2]

def bodies : Snapshot where
  templatedFunctions := drawBodies ++ visitBodies

def givenUp (limit : Nat) (similarity : Similarity) : Similarity := fun earlier f g =>
  if earlier < limit then similarity earlier f g else 0

theorem compares_neighbours_only_bodies
    : ∃ found, ((find byteSimilarity bodies).run (.start none)).1 = .ok found
        ∧ found.items.map (·.symbols) = [drawBodies, visitBodies]
        ∧ found.compared = [(bodyAt "Visit<bool>" 32 1, bodyAt "Visit<short>" 16 2),
          (bodyAt "Visit<short>" 16 2, bodyAt "Visit<int>" 16 3),
          (bodyAt "Visit<int>" 16 3, bodyAt "Visit<long>" 48 3)]
        ∧ TellsCalls byteSimilarity found
        ∧ (∀ item ∈ found.items, ComparesNeighbours item.symbols (representatives item.symbols)
          (comparisons item.symbols))
        ∧ ((find (givenUp 3 byteSimilarity) bodies).run (.start none)).1 = .ok found := by
  have hcheck : bodies.check = .ok () := rfl
  have ⟨found, hfound, htells, hitems, hagree⟩ :=
    compares_neighbours_only byteSimilarity hcheck (Pass.not_canceled_of_start_none _)
  have hsymbols : found.items.map (·.symbols) = [drawBodies, visitBodies] := by
    rw [Pass.run_start_none] at hfound
    have htemplates := congrArg (List.map Prod.snd) (map_template_find hfound)
    rw [List.map_map] at htemplates
    exact htemplates
  have hcalls : found.compared = comparisons drawBodies ++ comparisons visitBodies := by
    rw [htells.inOrder, ← List.flatMap_map, hsymbols, List.flatMap_cons, List.flatMap_singleton]
  have hall : found.compared = [(bodyAt "Visit<bool>" 32 1, bodyAt "Visit<short>" 16 2),
      (bodyAt "Visit<short>" 16 2, bodyAt "Visit<int>" 16 3),
      (bodyAt "Visit<int>" 16 3, bodyAt "Visit<long>" 48 3)] := by
    rw [hcalls]
    simp [comparisons, representatives, drawBodies, visitBodies, bodyAt, List.mergeSort, classes,
      firstSeen]
  refine ⟨found, hfound, hsymbols, hall, htells, hitems, ?_⟩
  apply hagree _ _ _ (Pass.not_canceled_of_start_none _)
  intro i f g hcall
  have hlt := (List.getElem?_eq_some_iff.1 hcall).1
  -- Only three calls are made, so giving up after the third one changes nothing.
  rw [hall] at hlt
  exact if_pos hlt

end Foldability
end Footprint
