import Footprint.Snapshot.Load

namespace Footprint

def smallLimit : Nat := 0x100000000

def CoffGroupRecord.InRange (g : CoffGroupRecord) : Prop :=
  g.size < wordLimit ∧ g.virtualSize < wordLimit

def SectionRecord.InRange (s : SectionRecord) : Prop :=
  s.size < wordLimit ∧ s.virtualSize < wordLimit ∧ ∀ g ∈ s.coffGroups, g.InRange

def ContributionRecord.InRange (r : ContributionRecord) : Prop :=
  r.size < wordLimit ∧ r.virtualSize < wordLimit

def Symbol.InRange (s : Symbol) : Prop :=
  s.rva < wordLimit ∧ s.size < wordLimit ∧ s.virtualSize < wordLimit

def StaticData.InRange (d : StaticData) : Prop :=
  d.rva < wordLimit ∧ d.size < wordLimit ∧ d.virtualSize < wordLimit

def TemplatedFunction.InRange (f : TemplatedFunction) : Prop :=
  f.rva < wordLimit ∧ f.size < wordLimit ∧ f.blockCount < smallLimit

structure Snapshot.InRange (s : Snapshot) : Prop where
  bytesPerWord : s.bytesPerWord < smallLimit
  sections : ∀ sec ∈ s.sections, sec.InRange
  compilands : ∀ c ∈ s.compilands, ∀ r ∈ c.contributions, r.InRange
  sourceFiles : ∀ f ∈ s.sourceFiles, ∀ r ∈ f.contributions, r.InRange
  symbols : ∀ y ∈ s.symbols, y.InRange
  staticData : ∀ d ∈ s.staticData, d.InRange
  templatedFunctions : ∀ f ∈ s.templatedFunctions, f.InRange

namespace Json

variable {α : Type} {limit n : Nat} {value : Json} {fields : Fields} {name : String}

theorem lt_of_natural? (h : natural? limit value = some n) : n < limit := by
  unfold natural? at h
  split at h
  . split at h
    . next hlt =>
      cases h
      exact hlt
    . cases h
  . cases h

theorem forall_of_list? {item? : Json → Option α} {P : α → Prop}
    (hitem : ∀ v a, item? v = some a → P a) {xs : List α} (h : list? item? value = some xs)
    : ∀ a ∈ xs, P a := by
  unfold list? at h
  split at h
  . next items =>
    induction items generalizing xs with
    | nil =>
      cases h
      simp
    | cons v items ih =>
      simp only [List.mapM_cons, Option.bind_eq_bind, Option.bind_eq_some_iff] at h
      obtain ⟨a, ha, rest, hrest, hxs⟩ := h
      cases hxs
      intro b hb
      rcases List.mem_cons.1 hb with rfl | hb
      . exact hitem v b ha
      . exact ih hrest b hb
  . cases h

theorem of_required {read? : Json → Option α} {P : α → Prop}
    (hread : ∀ v a, read? v = some a → P a) {a : α}
    (h : fields.required name read? = some a)
    : P a := by
  unfold Fields.required at h
  split at h
  . exact hread _ a h
  . cases h

theorem of_optional {read? : Json → Option α} {default : α} {P : α → Prop}
    (hread : ∀ v a, read? v = some a → P a) (hdefault : P default) {a : α}
    (h : fields.optional name read? default = some a)
    : P a := by
  unfold Fields.optional at h
  split at h
  . exact hread _ a h
  . cases h
    exact hdefault

theorem lt_of_required_count? (h : fields.required name count? = some n) : n < wordLimit := by
  apply of_required (P := (· < wordLimit)) _ h
  intro v m hm
  exact lt_of_natural? hm

theorem lt_of_optional_count? (h : fields.optional name count? 0 = some n) : n < wordLimit := by
  apply of_optional (P := (· < wordLimit)) _ (by decide) h
  intro v m hm
  exact lt_of_natural? hm

theorem lt_of_optional_small? {default : Nat} (hdefault : default < smallLimit)
    (h : fields.optional name small? default = some n)
    : n < smallLimit := by
  apply of_optional (P := (· < smallLimit)) _ hdefault h
  intro v m hm
  exact lt_of_natural? hm

theorem forall_of_optional_list? {item? : Json → Option α} {P : α → Prop}
    (hitem : ∀ v a, item? v = some a → P a) {xs : List α}
    (h : fields.optional name (list? item?) [] = some xs)
    : ∀ a ∈ xs, P a := by
  apply of_optional (P := fun xs => ∀ a ∈ xs, P a) _ (by simp) h
  intro v xs hxs
  exact forall_of_list? hitem hxs

end Json

open Json

variable {value : Json}

theorem CoffGroupRecord.inRange_of_ofJson? (value : Json) (g : CoffGroupRecord)
    (h : ofJson? value = some g)
    : g.InRange := by
  simp only [ofJson?, Option.bind_eq_bind, Option.bind_eq_some_iff] at h
  obtain ⟨_, _, _, _, _, hsize, _, hvirtual, hg⟩ := h
  cases hg
  exact ⟨lt_of_optional_count? hsize, lt_of_optional_count? hvirtual⟩

theorem SectionRecord.inRange_of_ofJson? (value : Json) (s : SectionRecord)
    (h : ofJson? value = some s)
    : s.InRange := by
  simp only [ofJson?, Option.bind_eq_bind, Option.bind_eq_some_iff] at h
  obtain ⟨_, _, _, _, _, hsize, _, hvirtual, _, hgroups, hs⟩ := h
  cases hs
  refine ⟨lt_of_optional_count? hsize, lt_of_optional_count? hvirtual, ?_⟩
  exact forall_of_optional_list? CoffGroupRecord.inRange_of_ofJson? hgroups

theorem ContributionRecord.inRange_of_ofJson? (value : Json) (r : ContributionRecord)
    (h : ofJson? value = some r)
    : r.InRange := by
  simp only [ofJson?, Option.bind_eq_bind, Option.bind_eq_some_iff] at h
  obtain ⟨_, _, _, _, _, _, _, hsize, _, hvirtual, hr⟩ := h
  cases hr
  exact ⟨lt_of_optional_count? hsize, lt_of_optional_count? hvirtual⟩

theorem CompilandRecord.inRange_of_ofJson? (value : Json) (c : CompilandRecord)
    (h : ofJson? value = some c)
    : ∀ r ∈ c.contributions, r.InRange := by
  simp only [ofJson?, Option.bind_eq_bind, Option.bind_eq_some_iff] at h
  obtain ⟨_, _, _, _, _, _, _, hrecords, hc⟩ := h
  cases hc
  exact forall_of_optional_list? ContributionRecord.inRange_of_ofJson? hrecords

theorem SourceFileRecord.inRange_of_ofJson? (value : Json) (f : SourceFileRecord)
    (h : ofJson? value = some f)
    : ∀ r ∈ f.contributions, r.InRange := by
  simp only [ofJson?, Option.bind_eq_bind, Option.bind_eq_some_iff] at h
  obtain ⟨_, _, _, _, _, hrecords, hf⟩ := h
  cases hf
  exact forall_of_optional_list? ContributionRecord.inRange_of_ofJson? hrecords

theorem Symbol.inRange_of_ofJson? (value : Json) (s : Symbol) (h : ofJson? value = some s)
    : s.InRange := by
  simp only [ofJson?, Option.bind_eq_bind, Option.bind_eq_some_iff] at h
  obtain ⟨_, _, _, _, _, hrva, _, hsize, _, hvirtual, hs⟩ := h
  cases hs
  exact ⟨lt_of_required_count? hrva, lt_of_optional_count? hsize, lt_of_optional_count? hvirtual⟩

theorem StaticData.inRange_of_ofJson? (value : Json) (d : StaticData)
    (h : ofJson? value = some d)
    : d.InRange := by
  simp only [ofJson?, Option.bind_eq_bind, Option.bind_eq_some_iff] at h
  obtain ⟨_, _, _, _, _, hrva, _, hsize, _, hvirtual, _, _, _, _, hd⟩ := h
  cases hd
  exact ⟨lt_of_required_count? hrva, lt_of_optional_count? hsize, lt_of_optional_count? hvirtual⟩

theorem TemplatedFunction.inRange_of_ofJson? (value : Json) (f : TemplatedFunction)
    (h : ofJson? value = some f)
    : f.InRange := by
  simp only [ofJson?, Option.bind_eq_bind, Option.bind_eq_some_iff] at h
  obtain ⟨_, _, _, _, _, _, _, _, _, _, _, hrva, _, hsize, _, _, _, hblocks, _, _, hf⟩ := h
  cases hf
  exact ⟨lt_of_required_count? hrva, lt_of_optional_count? hsize,
    lt_of_optional_small? (by decide) hblocks⟩

theorem Snapshot.inRange_of_ofJson? {s : Snapshot} (h : ofJson? value = some s)
    : s.InRange := by
  simp only [ofJson?, Option.bind_eq_bind, Option.bind_eq_some_iff] at h
  obtain ⟨_, _, _, _, _, hword, _, hsections, _, hcompilands, _, hfiles, _, hsymbols, _, hdata, _,
    hfunctions, _, _, hs⟩ := h
  cases hs
  constructor
  . exact lt_of_optional_small? (by decide) hword
  . exact forall_of_optional_list? SectionRecord.inRange_of_ofJson? hsections
  . exact forall_of_optional_list? CompilandRecord.inRange_of_ofJson? hcompilands
  . exact forall_of_optional_list? SourceFileRecord.inRange_of_ofJson? hfiles
  . exact forall_of_optional_list? Symbol.inRange_of_ofJson? hsymbols
  . exact forall_of_optional_list? StaticData.inRange_of_ofJson? hdata
  . exact forall_of_optional_list? TemplatedFunction.inRange_of_ofJson? hfunctions

end Footprint
