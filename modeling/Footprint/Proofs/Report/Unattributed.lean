import Footprint.Proofs.Report.RoundTrip

namespace Footprint

namespace Snapshot

variable {s : Snapshot} {p : Place} {size : Nat}

def size? (s : Snapshot) (p : Place) : Option Nat :=
  (placesOf s.sections).lookup p

/-- The bytes of a place that compilands do not contribute. Without a record there are none. -/
def unattributed (s : Snapshot) (p : Place) : Int :=
  (s.size? p).elim 0 fun size => size - sizeIn p (s.recordsOf .compiland)

theorem holds_of_size? (h : s.size? p = some size) : s.Holds size p := by
  obtain ⟨before, after, hplaces, _⟩ := List.lookup_eq_some_iff.1 h
  rw [← mem_placesOf, hplaces]
  exact List.mem_append_right before List.mem_cons_self

theorem Holds.unique (h : s.check = .ok ()) {other : Nat} (hholds : s.Holds size p)
    (hother : s.Holds other p)
    : size = other := by
  cases p with
  | binarySection name =>
    rw [holds_binarySection_iff h] at hholds hother
    exact Option.some.inj (hholds.symm.trans hother)
  | coffGroup group =>
    obtain ⟨_, hin⟩ := holds_coffGroup_iff.1 hholds
    obtain ⟨_, hother⟩ := holds_coffGroup_iff.1 hother
    exact (hin.unique h hother).2

theorem size?_eq_some_iff (h : s.check = .ok ()) : s.size? p = some size ↔ s.Holds size p := by
  constructor
  . exact holds_of_size?
  . intro hholds
    cases hsize : s.size? p with
    | some other => rw [hholds.unique h (holds_of_size? hsize)]
    | none =>
      have hne := List.lookup_eq_none_iff.1 hsize (p, size) (mem_placesOf.2 hholds)
      exact absurd rfl (bne_iff_ne.1 hne)

theorem size?_eq_none_iff (h : s.check = .ok ()) : s.size? p = none ↔ ∀ size, ¬s.Holds size p := by
  simp only [Option.eq_none_iff_forall_ne_some, ne_eq, size?_eq_some_iff h]

theorem unattributed_eq (h : s.check = .ok ()) (p : Place)
    : s.unattributed p = ((s.size? p).getD 0 : Int) - sizeIn p (s.recordsOf .compiland) := by
  unfold unattributed
  cases hsize : s.size? p with
  | some size => rfl
  | none =>
    rw [sizeIn_eq_zero h .compiland ((size?_eq_none_iff h).1 hsize)]
    rfl

theorem unattributed_of_size?_eq_none (h : s.size? p = none) : s.unattributed p = 0 := by
  unfold unattributed
  rw [h]
  rfl

end Snapshot

def Stays (s t : Snapshot) : Place → Prop
  | .binarySection _ => True
  | .coffGroup group => ∀ source target a b, ¬Moves s t group source target a b

instance (s : Snapshot) : Decidable s.WithinSigned :=
  decidable_of_iff
    (s.check = .ok () ∧ (s.sections.map (·.size)).sum ≤ maxSigned
      ∧ ∀ sec ∈ s.sections, ∀ g ∈ sec.coffGroups, g.size ≤ maxSigned)
    ⟨fun ⟨hcheck, hsections, hgroups⟩ => ⟨hcheck, hsections, hgroups⟩,
      fun h => ⟨h.check, h.inRange, h.coffGroups⟩⟩

theorem stays_coffGroup_iff {s t : Snapshot} {group : String}
    : Stays s t (.coffGroup group)
        ↔ ∀ sec ∈ s.sections, ∀ g ∈ sec.coffGroups, g.name = group
          → ∀ sec' ∈ t.sections, ∀ g' ∈ sec'.coffGroups, g'.name = group
          → sec.name = sec'.name := by
  constructor
  . intro hstays sec hsec g hg hname sec' hsec' g' hg' hname'
    by_contra hne
    exact hstays _ _ _ _ ⟨hne, ⟨sec, hsec, rfl, g, hg, hname, rfl⟩,
      ⟨sec', hsec', rfl, g', hg', hname', rfl⟩⟩
  . rintro hsame source target a b ⟨hne, hbefore, hafter⟩
    obtain ⟨sec, hsec, rfl, g, hg, hname, rfl⟩ := hbefore
    obtain ⟨sec', hsec', rfl, g', hg', hname', rfl⟩ := hafter
    exact hne (hsame sec hsec g hg hname sec' hsec' g' hg' hname')

instance (s t : Snapshot) : (p : Place) → Decidable (Stays s t p)
  | .binarySection _ => .isTrue trivial
  | .coffGroup _ => decidable_of_iff' _ stays_coffGroup_iff

section WithinSigned

variable {s t : Snapshot} {p : Place} {name group : String} {change : Int} {size : Nat}
  {diffs : List SectionDiff}

theorem size?_binarySection (h : s.check = .ok ()) (name : String)
    : s.size? (.binarySection name)
        = (findByName? (s.sections.map BinarySection.ofRecord) name).map Sized.size := by
  apply Option.ext
  intro size
  rw [Snapshot.size?_eq_some_iff h, Snapshot.holds_binarySection_iff h]

theorem size?_coffGroup_eq_some_iff (h : s.check = .ok ())
    : s.size? (.coffGroup group) = some size ↔ ∃ name, s.HoldsIn name group size := by
  rw [Snapshot.size?_eq_some_iff h, Snapshot.holds_coffGroup_iff]

theorem Snapshot.WithinSigned.getD_size?_le (h : s.WithinSigned) (name : String)
    : (s.size? (.binarySection name)).getD 0 ≤ maxSigned := by
  cases hsize : s.size? (.binarySection name) with
  | none => exact Nat.zero_le _
  | some size =>
    obtain ⟨sec, hsec, _, rfl⟩ := Snapshot.holds_of_size? hsize
    exact (List.le_sum_of_mem (List.mem_map_of_mem hsec)).trans h.inRange

theorem exists_ofSides?_sizeDiff_iff {α : Type} [Sized α] {before after : Option α}
    (hbefore : (before.map Sized.size).getD 0 ≤ maxSigned)
    (hafter : (after.map Sized.size).getD 0 ≤ maxSigned)
    : (∃ d, Diff.ofSides? before after = some d ∧ d.sizeDiff = change)
        ↔ ((before.map Sized.size).isSome ∨ (after.map Sized.size).isSome)
          ∧ change = ((after.map Sized.size).getD 0 : Int) - (before.map Sized.size).getD 0 := by
  have helim (side : Option α) : side.elim 0 Sized.size = (side.map Sized.size).getD 0 := by
    cases side <;> rfl
  have hsizeDiff {d : Diff α} (hd : Diff.ofSides? before after = some d)
      : d.sizeDiff = ((after.map Sized.size).getD 0 : Int) - (before.map Sized.size).getD 0 := by
    have ⟨hb, ha⟩ := Diff.ofSides?_eq_some.1 hd
    unfold Diff.sizeDiff Diff.deltaBy
    rw [hb, ha, helim, helim, Quantity.delta_of_le hbefore hafter]
  rw [Option.isSome_map, Option.isSome_map, ← Diff.isSome_ofSides?, Option.isSome_iff_exists]
  constructor
  . rintro ⟨d, hd, rfl⟩
    exact ⟨⟨d, hd⟩, hsizeDiff hd⟩
  . rintro ⟨⟨d, hd⟩, rfl⟩
    exact ⟨d, hd, hsizeDiff hd⟩

theorem mem_diffPlaces_section_iff (hs : s.WithinSigned) (ht : t.WithinSigned)
    (h : diffSections (s.sections.map BinarySection.ofRecord)
      (t.sections.map BinarySection.ofRecord) = .ok diffs)
    : (.binarySection name, change) ∈ diffPlaces diffs
        ↔ ((s.size? (.binarySection name)).isSome ∨ (t.size? (.binarySection name)).isSome)
          ∧ change = ((t.size? (.binarySection name)).getD 0 : Int)
            - (s.size? (.binarySection name)).getD 0 := by
  have hbefore := hs.getD_size?_le name
  have hafter := ht.getD_size?_le name
  rw [size?_binarySection hs.check] at hbefore ⊢
  rw [size?_binarySection ht.check] at hafter ⊢
  rw [mem_diffPlaces_binarySection h]
  exact exists_ofSides?_sizeDiff_iff hbefore hafter

theorem size?_coffGroup_eq_none_iff (h : s.check = .ok ())
    : s.size? (.coffGroup group) = none ↔ ∀ name size, ¬s.HoldsIn name group size := by
  rw [Option.eq_none_iff_forall_ne_some, forall_comm]
  simp only [ne_eq, size?_coffGroup_eq_some_iff h, not_exists]

theorem Stays.section_eq {source target : String} {a b : Nat}
    (h : Stays s t (.coffGroup group)) (hbefore : s.HoldsIn source group a)
    (hafter : t.HoldsIn target group b)
    : source = target := by
  by_contra hne
  exact h source target a b ⟨hne, hbefore, hafter⟩

theorem mem_diffPlaces_group_iff (hs : s.WithinSigned) (ht : t.WithinSigned)
    (h : diffSections (s.sections.map BinarySection.ofRecord)
      (t.sections.map BinarySection.ofRecord) = .ok diffs)
    (hstays : Stays s t (.coffGroup group))
    : (.coffGroup group, change) ∈ diffPlaces diffs
        ↔ ((s.size? (.coffGroup group)).isSome ∨ (t.size? (.coffGroup group)).isSome)
          ∧ change = ((t.size? (.coffGroup group)).getD 0 : Int)
            - (s.size? (.coffGroup group)).getD 0 := by
  have hsome {u : Snapshot} (hu : u.check = .ok ()) {name : String} {a : Nat}
      (hin : u.HoldsIn name group a) : u.size? (.coffGroup group) = some a :=
    (size?_coffGroup_eq_some_iff hu).2 ⟨name, hin⟩
  rw [mem_diffPlaces_iff_holdsIn hs ht h]
  constructor
  . rintro ⟨name, ⟨a, b, hbefore, hafter, rfl⟩ | ⟨a, hbefore, hnone, rfl⟩
      | ⟨b, hnone, hafter, rfl⟩⟩
    . rw [hsome hs.check hbefore, hsome ht.check hafter]
      exact ⟨.inl rfl, rfl⟩
    -- A group that is gone from its section is gone from the build, as it stays in its section.
    . have hmissing : t.size? (.coffGroup group) = none := by
        rw [size?_coffGroup_eq_none_iff ht.check]
        intro target b hafter
        cases hstays.section_eq hbefore hafter
        exact hnone b hafter
      rw [hsome hs.check hbefore, hmissing]
      exact ⟨.inl rfl, (zero_sub _).symm⟩
    . have hmissing : s.size? (.coffGroup group) = none := by
        rw [size?_coffGroup_eq_none_iff hs.check]
        intro source a hbefore
        cases hstays.section_eq hbefore hafter
        exact hnone a hbefore
      rw [hsome ht.check hafter, hmissing]
      exact ⟨.inr rfl, (sub_zero _).symm⟩
  . rintro ⟨hrecorded, rfl⟩
    cases ha : s.size? (.coffGroup group) with
    | none =>
      have hnone := (size?_coffGroup_eq_none_iff hs.check).1 ha
      rw [ha] at hrecorded
      have ⟨b, hb⟩ := Option.isSome_iff_exists.1 (hrecorded.resolve_left Bool.false_ne_true)
      have ⟨name, hafter⟩ := (size?_coffGroup_eq_some_iff ht.check).1 hb
      rw [hb]
      exact ⟨name, .inr (.inr ⟨b, hnone name, hafter, sub_zero _⟩)⟩
    | some a =>
      have ⟨source, hbefore⟩ := (size?_coffGroup_eq_some_iff hs.check).1 ha
      cases hb : t.size? (.coffGroup group) with
      | none =>
        have hnone := (size?_coffGroup_eq_none_iff ht.check).1 hb
        exact ⟨source, .inr (.inl ⟨a, hbefore, hnone source, zero_sub _⟩)⟩
      | some b =>
        have ⟨target, hafter⟩ := (size?_coffGroup_eq_some_iff ht.check).1 hb
        cases hstays.section_eq hbefore hafter
        exact ⟨source, .inl ⟨a, b, hbefore, hafter, rfl⟩⟩

theorem mem_diffPlaces_iff (hs : s.WithinSigned) (ht : t.WithinSigned)
    (h : diffSections (s.sections.map BinarySection.ofRecord)
      (t.sections.map BinarySection.ofRecord) = .ok diffs)
    (hstays : Stays s t p)
    : (p, change) ∈ diffPlaces diffs
        ↔ ((s.size? p).isSome ∨ (t.size? p).isSome)
          ∧ change = ((t.size? p).getD 0 : Int) - (s.size? p).getD 0 := by
  cases p with
  | binarySection name => exact mem_diffPlaces_section_iff hs ht h
  | coffGroup group => exact mem_diffPlaces_group_iff hs ht h hstays

theorem isSome_size?_of_unattributed_ne (h : s.unattributed p ≠ t.unattributed p)
    : (s.size? p).isSome ∨ (t.size? p).isSome := by
  by_contra hmissing
  rw [not_or, Option.not_isSome_iff_eq_none, Option.not_isSome_iff_eq_none] at hmissing
  rw [Snapshot.unattributed_of_size?_eq_none hmissing.1,
    Snapshot.unattributed_of_size?_eq_none hmissing.2] at h
  exact h rfl

theorem Report.inconsistent_iff_unattributed {options : AnalysisOptions} {similarity : Similarity}
    {m : Monitor} {c : Comparison} (hs : s.WithinSigned) (ht : t.WithinSigned)
    (hc : (compareSnapshots s t options similarity m).1 = .ok c)
    : (∀ p, Stays s t p
        → ((∃ change gained, .placeDiff p change gained ∈ (ofComparison c).inconsistencies)
          ↔ s.unattributed p ≠ t.unattributed p))
      ∧ ∀ i ∈ (ofComparison c).inconsistencies, ∃ p change gained,
        i = .placeDiff p change gained := by
  have ⟨x, y, hx, hy, hresult⟩ := exists_result_of_compareSnapshots hc
  have hpairs := Comparison.pairs_of_result hresult
  have hsections := hpairs.sections
  rw [(Snapshot.makes_of_result_analyze hx).sections,
    (Snapshot.makes_of_result_analyze hy).sections] at hsections
  rw [inconsistencies_eq hs ht hx hy hresult]
  simp only [mem_checkPlaceDiffs, signedTotal_compilands hs ht hx hy hpairs]
  constructor
  . intro p hstays
    have hbefore := Snapshot.unattributed_eq hs.check p
    have hafter := Snapshot.unattributed_eq ht.check p
    constructor
    . rintro ⟨_, _, p', change, ⟨hmem, hne⟩, heq⟩
      cases heq
      have ⟨_, hchange⟩ := (mem_diffPlaces_iff hs ht hsections hstays).1 hmem
      omega
    . intro hne
      have hrecorded := isSome_size?_of_unattributed_ne hne
      refine ⟨_, _, p, _, ⟨(mem_diffPlaces_iff hs ht hsections hstays).2 ⟨hrecorded, rfl⟩, ?_⟩, rfl⟩
      omega
  . rintro i ⟨p, change, _, rfl⟩
    exact ⟨p, change, _, rfl⟩

end WithinSigned

def partlyOwned (sections : List (String × Nat × Nat)) : Snapshot where
  sections := sections.map fun (name, size, _) =>
    { name, size, coffGroups := [{ name := s!"{name}$a", size }] }
  compilands := [
    { name := "a.obj", lib := "a.lib", contributions := sections.map fun (name, _, owned) =>
      { sectionName := name, coffGroup := s!"{name}$a", size := owned } }]

theorem Report.inconsistent_iff_unattributed_partlyOwned
    : ∃ c d, (compareSnapshots (partlyOwned [(".text", 10, 4)])
          (partlyOwned [(".text", 12, 6), (".data", 5, 5)]) {} byteSimilarity
          (.start none)).1 = .ok c
        ∧ (compareSnapshots (partlyOwned [(".text", 10, 4)])
          (partlyOwned [(".text", 12, 5), (".data", 5, 3)]) {} byteSimilarity
          (.start none)).1 = .ok d
        ∧ ∀ p ∈ [Place.binarySection ".text", .coffGroup ".text$a", .binarySection ".data",
            .coffGroup ".data$a"],
          (¬∃ change gained, .placeDiff p change gained ∈ (ofComparison c).inconsistencies)
          ∧ ∃ change gained, .placeDiff p change gained ∈ (ofComparison d).inconsistencies := by
  have hearlier : (partlyOwned [(".text", 10, 4)]).WithinSigned := by decide
  have hkept : (partlyOwned [(".text", 12, 6), (".data", 5, 5)]).WithinSigned := by decide
  have hleaky : (partlyOwned [(".text", 12, 5), (".data", 5, 3)]).WithinSigned := by decide
  obtain ⟨c, hc⟩ : ∃ c, (compareSnapshots (partlyOwned [(".text", 10, 4)])
      (partlyOwned [(".text", 12, 6), (".data", 5, 5)]) {} byteSimilarity
      (.start none)).1 = .ok c := ⟨_, rfl⟩
  obtain ⟨d, hd⟩ : ∃ d, (compareSnapshots (partlyOwned [(".text", 10, 4)])
      (partlyOwned [(".text", 12, 5), (".data", 5, 3)]) {} byteSimilarity
      (.start none)).1 = .ok d := ⟨_, rfl⟩
  refine ⟨c, d, hc, hd, ?_⟩
  intro p hp
  rw [(inconsistent_iff_unattributed hearlier hkept hc).1 p (by revert p; decide),
    (inconsistent_iff_unattributed hearlier hleaky hd).1 p (by revert p; decide)]
  revert p
  decide

end Footprint
