import Footprint.Proofs.Extent
import Footprint.Proofs.Roster
import Mathlib.Data.List.Forall2

namespace Footprint

/-- An amount that is added to a place. -/
abbrev Posting := Place × Extent

def amountIn (among : Place → Bool) (ps : List Posting) : Extent :=
  ((ps.filter (among ·.1)).map Prod.snd).sum

def amountAt (p : Place) (ps : List Posting) : Extent :=
  amountIn (· = p) ps

def Place.isSection : Place → Bool
  | binarySection _ => true
  | coffGroup _ => false

section Amounts

variable {α : Type} {among : Place → Bool}

theorem amountIn_nil : amountIn among [] = 0 := by
  rfl

theorem amountIn_cons (p : Posting) (ps : List Posting)
    : amountIn among (p :: ps) = (if among p.1 then p.2 else 0) + amountIn among ps := by
  apply sum_map_filter_cons (fun q : Posting => among q.1)

theorem amountAt_cons (p : Place) (q : Posting) (ps : List Posting)
    : amountAt p (q :: ps) = (if q.1 = p then q.2 else 0) + amountAt p ps := by
  unfold amountAt
  rw [amountIn_cons]
  simp only [decide_eq_true_eq]

theorem amountIn_append (ps qs : List Posting)
    : amountIn among (ps ++ qs) = amountIn among ps + amountIn among qs := by
  unfold amountIn
  rw [List.filter_append, List.map_append, List.sum_append]

theorem amountIn_flatMap (f : α → List Posting) (xs : List α)
    : amountIn among (xs.flatMap f) = (xs.map fun x => amountIn among (f x)).sum := by
  induction xs with
  | nil => rfl
  | cons x xs ih => rw [List.flatMap_cons, amountIn_append, ih, List.map_cons, List.sum_cons]

end Amounts

def ContributionRecord.postings (r : ContributionRecord) : List Posting :=
  [(.binarySection r.sectionName, r.extent), (.coffGroup r.coffGroup, r.extent)]

namespace Contributions

def postings (c : Contributions) : List Posting :=
  c.sections.entries.map (fun e => (.binarySection e.1, e.2))
    ++ c.coffGroups.entries.map fun e => (.coffGroup e.1, e.2)

def post (c : Contributions) (ps : List Posting) : Except Place Contributions :=
  ps.foldlM (fun c p => c.add p.1 p.2) c

def Fits (c : Contributions) : Prop :=
  ∀ p, (c.extentAt p).Fits

variable {among : Place → Bool} {c d : Contributions} {p q : Place} {e : Extent}
  {ps : List Posting}

theorem post_cons (p : Posting) (ps : List Posting)
    : c.post (p :: ps) = (c.add p.1 p.2).bind (·.post ps) := by
  rfl

theorem post_append (ps qs : List Posting) : c.post (ps ++ qs) = (c.post ps).bind (·.post qs) := by
  unfold post
  rw [List.foldlM_append]
  rfl

theorem addRecord_eq_post (c : Contributions) (r : ContributionRecord)
    : c.addRecord r = c.post r.postings := by
  unfold addRecord ContributionRecord.postings
  rw [post_cons]
  cases c.add (.binarySection r.sectionName) r.extent with
  | error q => rfl
  | ok d =>
    show d.add _ _ = d.post _
    rw [post_cons]
    cases d.add (.coffGroup r.coffGroup) r.extent <;> rfl

theorem merge_eq_post (c d : Contributions) : c.merge d = c.post d.postings := by
  unfold merge postings
  rw [post_append]
  unfold post
  simp only [List.foldlM_map]
  rfl

theorem foldlM_eq_post {α : Type} {f : Contributions → α → Except Place Contributions}
    {postingsOf : α → List Posting} (h : ∀ c x, f c x = c.post (postingsOf x)) (xs : List α)
    (c : Contributions)
    : xs.foldlM f c = c.post (xs.flatMap postingsOf) := by
  induction xs generalizing c with
  | nil => rfl
  | cons x xs ih =>
    rw [List.foldlM_cons, List.flatMap_cons, post_append, h]
    cases c.post (postingsOf x) with
    | error q => rfl
    | ok d => exact ih d

theorem ofRecords_eq_post (records : List ContributionRecord)
    : ofRecords records = empty.post (records.flatMap ContributionRecord.postings) := by
  apply foldlM_eq_post
  exact addRecord_eq_post

theorem mergeAll_eq_post (cs : List Contributions)
    : mergeAll cs = empty.post (cs.flatMap postings) := by
  apply foldlM_eq_post
  exact merge_eq_post

theorem add_eq_ok
    : c.add p e = .ok d ↔ (c.extentAt p + e).Fits ∧ c.put p (c.extentAt p + e) = d := by
  unfold add add?
  cases h : (c.extentAt p).add? e with
  | none =>
    have := Extent.add?_eq_none.1 h
    simp [this]
  | some sum =>
    have ⟨hfits, heq⟩ := Extent.add?_eq_some.1 h
    subst heq
    simp [hfits]

theorem add_eq_error : c.add p e = .error q ↔ q = p ∧ ¬(c.extentAt p + e).Fits := by
  unfold add add?
  cases h : (c.extentAt p).add? e with
  | none =>
    have := Extent.add?_eq_none.1 h
    simp [this, eq_comm]
  | some sum =>
    have := (Extent.add?_eq_some.1 h).1
    simp [this]

theorem extentAt_empty (p : Place) : empty.extentAt p = 0 := by
  cases p <;> rfl

theorem extentAt_binarySection (c : Contributions) (name : String)
    : c.extentAt (.binarySection name) = (c.sections.find? name).getD 0 := by
  rfl

theorem extentAt_coffGroup (c : Contributions) (name : String)
    : c.extentAt (.coffGroup name) = (c.coffGroups.find? name).getD 0 := by
  rfl

theorem find?_put (c : Contributions) (p q : Place) (e : Extent)
    : (c.put p e).find? q = if q = p then some e else c.find? q := by
  cases p <;> cases q <;> simp only [put, find?, Roster.find?_insert, Place.binarySection.injEq,
    Place.coffGroup.injEq, reduceCtorEq, ↓reduceIte]

theorem extentAt_put (c : Contributions) (p q : Place) (e : Extent)
    : (c.put p e).extentAt q = if q = p then e else c.extentAt q := by
  unfold extentAt
  rw [find?_put]
  split <;> rfl

theorem postings_empty : empty.postings = [] := by
  rfl

theorem amountIn_map (place : String → Place) (es : List (String × Extent))
    : amountIn among (es.map fun e => (place e.1, e.2))
        = ((es.filter fun e => among (place e.1)).map Prod.snd).sum := by
  unfold amountIn
  rw [List.filter_map, List.map_map]
  rfl

theorem amountIn_postings (among : Place → Bool) (c : Contributions)
    : amountIn among c.postings
        = ((c.sections.entries.filter fun e => among (.binarySection e.1)).map Prod.snd).sum
          + ((c.coffGroups.entries.filter fun e => among (.coffGroup e.1)).map Prod.snd).sum := by
  unfold postings
  rw [amountIn_append, amountIn_map, amountIn_map]

theorem amountAt_postings (p : Place) (c : Contributions)
    : amountAt p c.postings = c.extentAt p := by
  unfold amountAt
  rw [amountIn_postings]
  cases p with
  | binarySection name =>
    rw [extentAt_binarySection, Roster.getD_find?_eq_sum]
    simp
  | coffGroup name =>
    rw [extentAt_coffGroup, Roster.getD_find?_eq_sum]
    simp

theorem amountIn_sections (c : Contributions)
    : amountIn Place.isSection c.postings = c.sections.values.sum := by
  rw [amountIn_postings]
  simp [Place.isSection, Roster.values]

theorem amountIn_coffGroups (c : Contributions)
    : amountIn (!·.isSection) c.postings = c.coffGroups.values.sum := by
  rw [amountIn_postings]
  simp [Place.isSection, Roster.values]

theorem amountIn_put (among : Place → Bool) (c : Contributions) (p : Place) (e : Extent)
    : amountIn among (c.put p (c.extentAt p + e)).postings
        = amountIn among c.postings + if among p then e else 0 := by
  simp only [amountIn_postings]
  cases p with
  | binarySection name =>
    have h := Roster.sum_filter_put (fun n => among (.binarySection n)) name e c.sections.entries
    simp only [put, Roster.insert]
    rw [add_right_comm]
    exact congrArg (· + _) h
  | coffGroup name =>
    have h := Roster.sum_filter_put (fun n => among (.coffGroup n)) name e c.coffGroups.entries
    simp only [put, Roster.insert]
    rw [add_assoc]
    exact congrArg (_ + ·) h

theorem amountIn_post (among : Place → Bool) (h : c.post ps = .ok d)
    : amountIn among d.postings = amountIn among c.postings + amountIn among ps := by
  -- Whatever the places, each step adds as much to them as its posting amounts to there.
  induction ps generalizing c with
  | nil =>
    cases h
    simp [amountIn_nil]
  | cons p ps ih =>
    rw [post_cons] at h
    cases hadd : c.add p.1 p.2 with
    | error q => simp [hadd, Except.bind] at h
    | ok c' =>
      rw [hadd] at h
      have heq := (add_eq_ok.1 hadd).2
      rw [ih h, ← heq, amountIn_put, amountIn_cons, add_assoc]

theorem extentAt_post (p : Place) (h : c.post ps = .ok d)
    : d.extentAt p = c.extentAt p + amountAt p ps := by
  rw [← amountAt_postings, ← amountAt_postings]
  exact amountIn_post _ h

theorem fits_empty : empty.Fits := by
  intro p
  rw [extentAt_empty]
  exact Extent.fits_zero

theorem fits_add (hc : c.Fits) (h : c.add p e = .ok d) : d.Fits := by
  have ⟨hfits, heq⟩ := add_eq_ok.1 h
  intro q
  rw [← heq, extentAt_put]
  split
  . exact hfits
  . exact hc q

theorem fits_post (hc : c.Fits) (h : c.post ps = .ok d) : d.Fits := by
  induction ps generalizing c with
  | nil =>
    cases h
    exact hc
  | cons p ps ih =>
    rw [post_cons] at h
    cases hadd : c.add p.1 p.2 with
    | error q => simp [hadd, Except.bind] at h
    | ok c' =>
      rw [hadd] at h
      exact ih (fits_add hc hadd) h

theorem not_fits_of_post_eq_error (h : c.post ps = .error p)
    : ¬(c.extentAt p + amountAt p ps).Fits := by
  induction ps generalizing c with
  | nil => cases h
  | cons q ps ih =>
    intro hfits
    rw [amountAt_cons, ← add_assoc] at hfits
    rw [post_cons] at h
    cases hadd : c.add q.1 q.2 with
    | error r =>
      rw [hadd] at h
      cases h
      have ⟨heq, hnot⟩ := add_eq_error.1 hadd
      subst heq
      apply hnot
      apply hfits.of_le
      rw [if_pos rfl]
      exact le_self_add
    | ok c' =>
      rw [hadd] at h
      apply ih h
      have heq := (add_eq_ok.1 hadd).2
      rw [← heq, extentAt_put]
      by_cases hp : p = q.1
      . simpa [hp] using hfits
      . have hq : ¬q.1 = p := fun hq => hp hq.symm
        simpa [hp, hq] using hfits

theorem post_empty_eq_ok_iff
    : (∃ d, empty.post ps = .ok d) ↔ ∀ p, (amountAt p ps).Fits := by
  constructor
  . intro ⟨d, h⟩ p
    have hfits := fits_post fits_empty h p
    rw [extentAt_post p h, extentAt_empty, zero_add] at hfits
    exact hfits
  . intro h
    cases hpost : empty.post ps with
    | ok d => exact ⟨d, rfl⟩
    | error p =>
      have hnot := not_fits_of_post_eq_error hpost
      rw [extentAt_empty, zero_add] at hnot
      exact absurd (h p) hnot

theorem not_fits_of_post_empty_eq_error (h : empty.post ps = .error p)
    : ¬(amountAt p ps).Fits := by
  have hnot := not_fits_of_post_eq_error h
  rw [extentAt_empty, zero_add] at hnot
  exact hnot

theorem extentAt_post_empty (p : Place) (h : empty.post ps = .ok d)
    : d.extentAt p = amountAt p ps := by
  rw [extentAt_post p h, extentAt_empty, zero_add]

theorem amountIn_post_empty (among : Place → Bool) (h : empty.post ps = .ok d)
    : amountIn among d.postings = amountIn among ps := by
  rw [amountIn_post among h, postings_empty, amountIn_nil, zero_add]

section Sums

variable {records : List ContributionRecord} {cs : List Contributions}

theorem amountIn_ofRecords (among : Place → Bool) (h : ofRecords records = .ok c)
    : amountIn among c.postings = (records.map fun r => amountIn among r.postings).sum := by
  rw [ofRecords_eq_post] at h
  rw [amountIn_post_empty among h, amountIn_flatMap]

theorem amountIn_mergeAll (among : Place → Bool) (h : mergeAll cs = .ok c)
    : amountIn among c.postings = (cs.map fun d => amountIn among d.postings).sum := by
  rw [mergeAll_eq_post] at h
  rw [amountIn_post_empty among h, amountIn_flatMap]

theorem extentAt_mergeAll (p : Place) (h : mergeAll cs = .ok c)
    : c.extentAt p = (cs.map (·.extentAt p)).sum := by
  simp only [← amountAt_postings]
  exact amountIn_mergeAll _ h

theorem sum_sections_ofRecords (h : ofRecords records = .ok c)
    : c.sections.values.sum = (records.map (·.extent)).sum := by
  rw [← amountIn_sections, amountIn_ofRecords _ h]
  simp [ContributionRecord.postings, amountIn_cons, amountIn_nil, Place.isSection]

theorem sum_coffGroups_ofRecords (h : ofRecords records = .ok c)
    : c.coffGroups.values.sum = (records.map (·.extent)).sum := by
  rw [← amountIn_coffGroups, amountIn_ofRecords _ h]
  simp [ContributionRecord.postings, amountIn_cons, amountIn_nil, Place.isSection]

theorem sum_sections_mergeAll (h : mergeAll cs = .ok c)
    : c.sections.values.sum = (cs.map (·.sections.values.sum)).sum := by
  simp only [← amountIn_sections]
  exact amountIn_mergeAll _ h

theorem sum_coffGroups_mergeAll (h : mergeAll cs = .ok c)
    : c.coffGroups.values.sum = (cs.map (·.coffGroups.values.sum)).sum := by
  simp only [← amountIn_coffGroups]
  exact amountIn_mergeAll _ h

theorem mergeAll_append_singleton (cs : List Contributions) (d : Contributions)
    : mergeAll (cs ++ [d]) = (mergeAll cs).bind (·.merge d) := by
  unfold mergeAll
  rw [List.foldlM_append]
  cases cs.foldlM merge empty with
  | error q => rfl
  | ok c =>
    show [d].foldlM merge c = c.merge d
    rw [List.foldlM_cons]
    cases c.merge d <;> rfl

theorem exists_ofRecords (h : ∀ p, (amountAt p (records.flatMap (·.postings))).Fits)
    : ∃ c, ofRecords records = .ok c := by
  rw [ofRecords_eq_post]
  exact post_empty_eq_ok_iff.2 h

theorem fits_mergeAll (h : mergeAll cs = .ok c) : c.Fits := by
  rw [mergeAll_eq_post] at h
  exact fits_post fits_empty h

theorem extentAt_ofRecords (p : Place) (h : ofRecords records = .ok c)
    : c.extentAt p = amountAt p (records.flatMap (·.postings)) := by
  rw [ofRecords_eq_post] at h
  exact extentAt_post_empty p h

theorem exists_mergeAll (h : ∀ p, Extent.Fits (cs.map (extentAt · p)).sum)
    : ∃ c, mergeAll cs = .ok c := by
  rw [mergeAll_eq_post]
  rw [post_empty_eq_ok_iff]
  intro p
  unfold amountAt
  rw [amountIn_flatMap]
  have heq : (fun d : Contributions => amountIn (· = p) d.postings) = (extentAt · p) := by
    funext d
    exact amountAt_postings p d
  rw [heq]
  exact h p

theorem sum_amountIn_of_forall₂ {recordLists : List (List ContributionRecord)}
    (h : List.Forall₂ (fun records c => ofRecords records = .ok c) recordLists cs)
    : (cs.map fun c => amountIn among c.postings).sum
        = amountIn among (recordLists.flatten.flatMap (·.postings)) := by
  induction h with
  | nil => rfl
  | cons hc _ ih =>
    rw [List.map_cons, List.sum_cons, List.flatten_cons, List.flatMap_append, amountIn_append, ih,
      amountIn_ofRecords _ hc, ← amountIn_flatMap]

theorem exists_ofRecords_of_mem {recordLists : List (List ContributionRecord)}
    (h : ∀ p, (amountAt p (recordLists.flatten.flatMap (·.postings))).Fits)
    (hmem : records ∈ recordLists)
    : ∃ c, ofRecords records = .ok c := by
  apply exists_ofRecords
  intro p
  apply (h p).of_le
  -- The records of one container are part of all records.
  obtain ⟨before, after, rfl⟩ := List.append_of_mem hmem
  simp only [List.flatten_append, List.flatten_cons, List.flatMap_append, amountAt,
    amountIn_append]
  exact le_add_of_le_right le_self_add

end Sums

theorem size_eq_sum (h : c.sections.values.sum.size < wordLimit)
    : c.size = c.sections.values.sum.size := by
  rw [Extent.size_sum] at h ⊢
  exact Quantity.saturatingTotal_eq_sum h

end Contributions
end Footprint
