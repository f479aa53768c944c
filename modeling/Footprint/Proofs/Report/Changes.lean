import Footprint.Proofs.Aggregation
import Footprint.Proofs.Pairing.Complete
import Footprint.Proofs.Report.Tally
import Mathlib.Data.Finset.Card

namespace Footprint

variable {α : Type}

inductive EntityKind where
  | binarySection
  | lib
  | compiland
  | sourceFile
  | symbol
  deriving DecidableEq, Repr

def Snapshot.entities (s : Snapshot) : EntityKind → List (String × Nat)
  | .binarySection => s.sections.map fun r => (r.name, r.size)
  | .lib => (firstSeen (s.compilands.map (·.lib))).map fun lib =>
    (lib, ((s.recordsOfLib lib).map (·.size)).sum)
  | .compiland => s.compilands.map fun r => (r.name, (r.contributions.map (·.size)).sum)
  | .sourceFile => s.sourceFiles.map fun r => (r.name, (r.contributions.map (·.size)).sum)
  | .symbol => s.symbols.map fun r => (r.name, r.size)

def DiffTotals.changes (t : DiffTotals) : EntityKind → ChangeTotals
  | .binarySection => t.sections
  | .lib => t.libs
  | .compiland => t.compilands
  | .sourceFile => t.sourceFiles
  | .symbol => t.symbols

def namesWhose (related : Nat → Nat → Prop) [DecidableRel related]
    (before after : List (String × Nat)) : Finset String :=
  ((before.filter fun b => ∃ a ∈ after, a.1 = b.1 ∧ related b.2 a.2).map Prod.fst).toFinset

structure ChangeTotals.CountsBuilds (t : ChangeTotals) (before after : List (String × Nat))
    : Prop where
  befores : t.removed + t.grown + t.shrunk + t.unchanged = before.length
  afters : t.added + t.grown + t.shrunk + t.unchanged = after.length
  names : t.total = ((before ++ after).map Prod.fst).toFinset.card
  sizes : (∀ e ∈ before ++ after, e.2 ≤ maxSigned)
    → t.grown = (namesWhose (· < ·) before after).card
      ∧ t.shrunk = (namesWhose (· > ·) before after).card
      ∧ t.unchanged = (namesWhose (· = ·) before after).card

section Pairs

variable [Entity α] {before after : List α} {pairs : List (Diff α)} {d : Diff α}

def Entity.entry (e : α) : String × Nat :=
  (name e, Sized.size e)

theorem mem_namesWhose {related : Nat → Nat → Prop} [DecidableRel related] {name : String}
    : name ∈ namesWhose related (before.map Entity.entry) (after.map Entity.entry)
        ↔ ∃ b ∈ before, ∃ a ∈ after, Entity.name b = name ∧ Entity.name a = name
          ∧ related (Sized.size b) (Sized.size a) := by
  unfold namesWhose Entity.entry
  simp only [List.mem_toFinset, List.mem_map, List.mem_filter, decide_eq_true_eq]
  constructor
  . rintro ⟨_, ⟨⟨b, hb, rfl⟩, _, ⟨a, ha, rfl⟩, hname, hrelated⟩, rfl⟩
    exact ⟨b, hb, a, ha, rfl, hname, hrelated⟩
  . rintro ⟨b, hb, a, ha, rfl, hname, hrelated⟩
    exact ⟨_, ⟨⟨b, hb, rfl⟩, _, ⟨a, ha, rfl⟩, hname, hrelated⟩, rfl⟩

theorem eq_both_iff (h : pairByName before after = .ok pairs) (hd : d ∈ pairs) {b a : α}
    : d = .both b a
        ↔ (b ∈ before ∧ Entity.name b = d.name) ∧ a ∈ after ∧ Entity.name a = d.name := by
  have ⟨hbefore, hafter⟩ := nodup_of_pairByKey h
  have ⟨hfirst, hsecond⟩ := sides_of_mem h hd
  rw [← find?_key_eq_some_iff hbefore, ← find?_key_eq_some_iff hafter]
  show d = .both b a ↔ before.find? _ = some b ∧ after.find? _ = some a
  unfold Diff.name
  rw [← hfirst, ← hsecond]
  cases d <;> simp [Diff.before?, Diff.after?]

theorem card_namesWhose (h : pairByName before after = .ok pairs)
    {related : Nat → Nat → Prop} [DecidableRel related] {p : Diff α → Prop} [DecidablePred p]
    (hp : ∀ d ∈ pairs, p d
      ↔ ∃ b a, d = .both b a ∧ related (Sized.size b) (Sized.size a))
    : (namesWhose related (before.map Entity.entry) (after.map Entity.entry)).card
        = pairs.countP (p ·) := by
  have hnames : namesWhose related (before.map Entity.entry) (after.map Entity.entry)
      = ((pairs.filter (p ·)).map Diff.name).toFinset := by
    ext name
    rw [mem_namesWhose, List.mem_toFinset, List.mem_map]
    simp only [List.mem_filter, decide_eq_true_eq]
    constructor
    . rintro ⟨b, hb, a, ha, rfl, hname, hrelated⟩
      have hkey := (mem_keys_of_pairByKey h _).2 (.inl (List.mem_map_of_mem hb))
      obtain ⟨d, hd, hkey⟩ := List.mem_map.1 hkey
      have hboth : d = .both b a :=
        (eq_both_iff h hd).2 ⟨⟨hb, hkey.symm⟩, ha, hname.trans hkey.symm⟩
      exact ⟨d, ⟨hd, (hp d hd).2 ⟨b, a, hboth, hrelated⟩⟩, hkey⟩
    . rintro ⟨d, ⟨hd, hpd⟩, rfl⟩
      obtain ⟨b, a, hboth, hrelated⟩ := (hp d hd).1 hpd
      obtain ⟨⟨hb, hbname⟩, ha, haname⟩ := (eq_both_iff h hd).1 hboth
      exact ⟨b, hb, a, ha, hbname, haname, hrelated⟩
  have hnodup : ((pairs.filter (p ·)).map Diff.name).Nodup :=
    (nodup_keys_of_pairByKey h).sublist (List.filter_sublist.map _)
  rw [hnames, List.toFinset_card_of_nodup hnodup, List.length_map, List.countP_eq_length_filter]

theorem number_eq_card (h : pairByName before after = .ok pairs)
    (hbefore : ∀ b ∈ before, Sized.size b ≤ maxSigned)
    (hafter : ∀ a ∈ after, Sized.size a ≤ maxSigned) (k : Change) (change : Int → Prop)
    {related : Nat → Nat → Prop} [DecidableRel related]
    (hk : ∀ d : Diff α, d.Shows k ↔ d.before?.isSome ∧ d.after?.isSome ∧ change d.sizeDiff)
    (hchange : ∀ b a : Nat, change (a - b) ↔ related b a)
    : (ChangeTotals.ofDiffs pairs).number k
        = (namesWhose related (before.map Entity.entry) (after.map Entity.entry)).card := by
  rw [(ChangeTotals.counts_ofDiffs pairs).number]
  refine (card_namesWhose h fun d hd => ?_).symm
  rw [hk]
  cases d with
  | beforeOnly b => simp [Diff.after?]
  | afterOnly a => simp [Diff.before?]
  | both b a =>
    obtain ⟨⟨hb, _⟩, ha, _⟩ := (eq_both_iff h hd).1 rfl
    have hdelta : (Diff.both b a).sizeDiff = Sized.size a - Sized.size b :=
      Quantity.delta_of_le (hbefore b hb) (hafter a ha)
    rw [hdelta, hchange]
    simp [Diff.before?, Diff.after?]

theorem length_filterMap_add_number (side? : Diff α → Option α) (k : Change)
    (hk : ∀ d : Diff α, d.Shows k ↔ side? d = none) (pairs : List (Diff α))
    : (pairs.filterMap side?).length + (ChangeTotals.ofDiffs pairs).number k = pairs.length := by
  rw [(ChangeTotals.counts_ofDiffs pairs).number, List.length_filterMap_eq_countP,
    List.length_eq_countP_add_countP fun d => (side? d).isSome]
  congr 1
  apply List.countP_congr
  intro d _
  rw [decide_eq_true_iff, hk]
  simp

theorem countsBuilds_of_pairByName (h : pairByName before after = .ok pairs)
    : (ChangeTotals.ofDiffs pairs).CountsBuilds (before.map Entity.entry)
        (after.map Entity.entry) := by
  have hcounts := ChangeTotals.counts_ofDiffs pairs
  have htotal := hcounts.total
  rw [ChangeTotals.total_ofDiffs] at htotal
  constructor
  case befores =>
    -- What is not added has been there before.
    have hbefores : _ + (ChangeTotals.ofDiffs pairs).added = _ :=
      length_filterMap_add_number Diff.before? .added (fun _ => Iff.rfl) pairs
    rw [filterMap_before?_of_pairByKey h] at hbefores
    rw [List.length_map]
    omega
  case afters =>
    have hafters : _ + (ChangeTotals.ofDiffs pairs).removed = _ :=
      length_filterMap_add_number Diff.after? .removed (fun _ => Iff.rfl) pairs
    rw [(perm_filterMap_after?_of_pairByKey h).length_eq] at hafters
    rw [List.length_map]
    omega
  case names =>
    have hnodup : (pairs.map Diff.name).Nodup := nodup_keys_of_pairByKey h
    have hnames : ((before.map Entity.entry ++ after.map Entity.entry).map Prod.fst).toFinset
        = (pairs.map Diff.name).toFinset := by
      ext name
      rw [List.mem_toFinset, List.mem_toFinset, List.map_append, List.mem_append, List.map_map,
        List.map_map]
      exact (mem_keys_of_pairByKey h name).symm
    rw [hnames, List.toFinset_card_of_nodup hnodup, List.length_map, hcounts.total]
  case sizes =>
    intro hle
    have hbefore : ∀ b ∈ before, Sized.size b ≤ maxSigned := fun b hb =>
      hle _ (List.mem_append_left _ (List.mem_map_of_mem hb))
    have hafter : ∀ a ∈ after, Sized.size a ≤ maxSigned := fun a ha =>
      hle _ (List.mem_append_right _ (List.mem_map_of_mem ha))
    have hnumber := number_eq_card h hbefore hafter
    refine ⟨?_, ?_, ?_⟩
    . exact hnumber .grown (0 < ·) (fun _ => Iff.rfl) (by omega)
    . exact hnumber .shrunk (· < 0) (fun _ => Iff.rfl) (by omega)
    . exact hnumber .unchanged (· = 0) (fun _ => Iff.rfl) (by omega)

end Pairs

section Snapshots

variable {s : Snapshot} {options : AnalysisOptions} {similarity : Similarity} {x y : Analysis}
  {c : Comparison}

def Analysis.entities (a : Analysis) : EntityKind → List (String × Nat)
  | .binarySection => a.sections.map Entity.entry
  | .lib => a.libs.map Entity.entry
  | .compiland => a.compilands.map Entity.entry
  | .sourceFile => a.sourceFiles.map Entity.entry
  | .symbol => a.symbols.map Entity.entry

theorem countsBuilds_of_diffContainers [Container α] {task : Task} {before after : List α}
    {diffs : List (ContainerDiff α)} (h : (diffContainers task before after).result = .ok diffs)
    : (ChangeTotals.ofDiffs (diffs.map (·.diff))).CountsBuilds (before.map Entity.entry)
        (after.map Entity.entry) := by
  obtain ⟨pairs, hpairs, rfl⟩ := result_diffContainers.1 h
  have hdiff : ContainerDiff.diff ∘ ContainerDiff.ofDiff = (id : Diff α → Diff α) := rfl
  rw [List.map_map, hdiff, List.map_id]
  exact countsBuilds_of_pairByName hpairs

theorem DiffTotals.countsBuilds_of_pairs (h : c.Pairs x y) (kind : EntityKind)
    : ((ofComparison c).changes kind).CountsBuilds (x.entities kind) (y.entities kind) := by
  cases kind with
  | binarySection =>
    have ⟨pairs, hpairs, hall⟩ := diffSections_eq_ok.1 h.sections
    show (ChangeTotals.ofDiffs (c.sections.map (·.diff))).CountsBuilds _ _
    rw [map_diff_of_diffSections hall]
    exact countsBuilds_of_pairByName hpairs
  | lib => exact countsBuilds_of_diffContainers h.libs
  | compiland => exact countsBuilds_of_diffContainers h.compilands
  | sourceFile => exact countsBuilds_of_diffContainers h.sourceFiles
  | symbol => exact countsBuilds_of_pairByName h.symbols

theorem size_lib_eq_sum (h : s.check = .ok ()) {libs : List Lib} (hlibs : s.Aggregates libs)
    {l : Lib} (hl : l ∈ libs)
    : Sized.size l = ((s.recordsOfLib l.name).map (·.size)).sum := by
  -- The records of one lib are at most as large as all records together.
  have hle : ((s.recordsOfLib l.name).map (·.size)).sum
      ≤ ((s.recordsOf .lib).map (·.size)).sum := by
    apply ((sublist_recordsOfLib s l.name).map _).sum_le_sum
    exact fun _ _ => Nat.zero_le _
  have hlt := hle.trans_lt (sum_size_recordsOf_lt h .lib)
  exact (accountsFor (hlibs.eachLib l hl) hlt).records

theorem entities_of_result_analyze (h : s.check = .ok ())
    (hx : (s.analyze options similarity).result = .ok x) (kind : EntityKind)
    : x.entities kind = s.entities kind := by
  have hmakes := Snapshot.makes_of_result_analyze hx
  have ⟨hlibsOf, hconserves⟩ := conserves_of_result_analyze h hx
  cases kind with
  | binarySection =>
    show x.sections.map Entity.entry = _
    rw [hmakes.sections, List.map_map]
    rfl
  | lib =>
    have hlibs := aggregates hmakes.compilands hlibsOf
    show x.libs.map Entity.entry = (firstSeen _).map _
    rw [← hlibs.names, List.map_map]
    apply List.map_congr_left
    intro l hl
    exact Prod.ext rfl (size_lib_eq_sum h hlibs hl)
  | compiland =>
    apply map_eq_map_of_forall₂
    exact hconserves.eachCompiland.imp fun r c hc => Prod.ext hc.1 hc.2.2.records
  | sourceFile =>
    apply map_eq_map_of_forall₂
    exact hconserves.eachSourceFile.imp fun r f hf => Prod.ext hf.1 hf.2.records
  | symbol =>
    show x.symbols.map Entity.entry = _
    rw [Snapshot.symbols_of_result_analyze hx]
    rfl

end Snapshots

theorem Report.changes_count_builds {before after : Snapshot} {options : AnalysisOptions}
    {similarity : Similarity} {m : Monitor} {c : Comparison} (hbefore : before.check = .ok ())
    (hafter : after.check = .ok ())
    (hc : (compareSnapshots before after options similarity m).1 = .ok c) (kind : EntityKind)
    : ((DiffTotals.ofComparison c).changes kind).CountsBuilds (before.entities kind)
        (after.entities kind) := by
  have ⟨x, y, hx, hy, hresult⟩ := exists_result_of_compareSnapshots hc
  have hcounts := DiffTotals.countsBuilds_of_pairs (Comparison.pairs_of_result hresult) kind
  rw [entities_of_result_analyze hbefore hx, entities_of_result_analyze hafter hy] at hcounts
  exact hcounts

theorem Report.changes_count_builds_linkedInto
    : ∃ c, (linkedInto "x.lib" 5).check = .ok ()
        ∧ (linkedInto "y.lib" 8).check = .ok ()
        ∧ (compareSnapshots (linkedInto "x.lib" 5) (linkedInto "y.lib" 8) {} byteSimilarity
          (.start none)).1 = .ok c
        ∧ ((DiffTotals.ofComparison c).changes .lib).CountsBuilds [("x.lib", 14)]
          [("x.lib", 7), ("y.lib", 10)]
        ∧ ((DiffTotals.ofComparison c).changes .lib).shrunk = 1
        ∧ ((DiffTotals.ofComparison c).changes .compiland).grown = 1 := by
  obtain ⟨c, hc⟩ : ∃ c, (compareSnapshots (linkedInto "x.lib" 5) (linkedInto "y.lib" 8) {}
      byteSimilarity (.start none)).1 = .ok c := ⟨_, rfl⟩
  have hlibs := changes_count_builds rfl rfl hc .lib
  have hcompilands := changes_count_builds rfl rfl hc .compiland
  refine ⟨c, rfl, rfl, hc, hlibs, ?_, ?_⟩
  . exact (hlibs.sizes (by decide)).2.1
  . exact (hcompilands.sizes (by decide)).1

end Footprint
