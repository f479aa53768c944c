import Footprint.Proofs.Comparison
import Footprint.Proofs.Correspondence
import Footprint.Proofs.Waste.Occurrences
import Footprint.Proofs.Waste.SlotChanges

namespace Footprint

variable {α β γ : Type}

namespace Diff

def swap : Diff α → Diff α
  | beforeOnly before => afterOnly before
  | afterOnly after => beforeOnly after
  | both before after => both after before

theorem swap_swap (d : Diff α) : d.swap.swap = d := by
  cases d <;> rfl

theorem before?_swap (d : Diff α) : d.swap.before? = d.after? := by
  cases d <;> rfl

theorem after?_swap (d : Diff α) : d.swap.after? = d.before? := by
  cases d <;> rfl

theorem map_swap (f : α → β) (d : Diff α) : d.swap.map f = (d.map f).swap := by
  cases d <;> rfl

theorem swap_injective : (swap : Diff α → Diff α).Injective := by
  intro d e h
  rw [← swap_swap d, h, swap_swap]

theorem ofSides?_swap (before after : Option α)
    : ofSides? after before = (ofSides? before after).map swap := by
  cases before <;> cases after <;> rfl

theorem deltaBy_swap (quantity : α → Nat) (d : Diff α)
    : d.swap.deltaBy quantity = -d.deltaBy quantity := by
  unfold deltaBy Quantity.delta
  rw [before?_swap, after?_swap]
  omega

structure Mirrors [Sized α] (d e : Diff α) : Prop where
  exchanged : e = d.swap
  sizeDiff : e.sizeDiff = -d.sizeDiff
  virtualSizeDiff : e.virtualSizeDiff = -d.virtualSizeDiff

structure MirrorsWaste [Sized α] [Wasteful α] (d e : Diff α) : Prop extends d.Mirrors e where
  wastedSizeDiff : e.wastedSizeDiff = -d.wastedSizeDiff

theorem mirrors_swap [Sized α] (d : Diff α) : d.Mirrors d.swap where
  exchanged := rfl
  sizeDiff := deltaBy_swap Sized.size d
  virtualSizeDiff := deltaBy_swap Sized.virtualSize d

theorem mirrorsWaste_swap [Sized α] [Wasteful α] (d : Diff α) : d.MirrorsWaste d.swap where
  toMirrors := mirrors_swap d
  wastedSizeDiff := deltaBy_swap Wasteful.wastedSize d

end Diff

section Corresponds

variable {R : α → β → Prop} {P : Diff γ → α → Prop} {Q : Diff γ → β → Prop}

theorem corresponds_of_swap {pairs swapped : List (Diff γ)} {xs : List α} {ys : List β}
    (hswap : (pairs.map Diff.swap).Perm swapped) (hxs : List.Forall₂ P pairs xs)
    (hys : List.Forall₂ Q swapped ys) (h : ∀ d x y, P d x → Q d.swap y → R x y)
    : Corresponds R xs ys := by
  obtain ⟨zs, hzs, hperm⟩ := List.perm_comp_forall₂ hswap hys
  rw [List.forall₂_map_left_iff] at hzs
  exact ⟨zs, forall₂_of_common hxs hzs h, hperm⟩

theorem corresponds_map_of_swap {pairs swapped : List (Diff γ)} {f : Diff γ → α} {g : Diff γ → β}
    (hswap : (pairs.map Diff.swap).Perm swapped) (h : ∀ d, R (f d) (g d.swap))
    : Corresponds R (pairs.map f) (swapped.map g) := by
  refine ⟨(pairs.map Diff.swap).map g, ?_, hswap.map g⟩
  rw [List.map_map, List.forall₂_map_left_iff, List.forall₂_map_right_iff, List.forall₂_same]
  exact fun d _ => h d

end Corresponds

section Lists

variable {key : α → String} {before after : List α} {pairs swapped : List (Diff α)}

theorem mem_of_pairByKey (h : pairByKey key before after = .ok pairs) {d : Diff α}
    : d ∈ pairs ↔ ∃ name, Diff.ofSides? (before.find? (key · = name)) (after.find? (key · = name))
        = some d := by
  simp only [← find?_of_pairByKey h, find?_key_eq_some_iff (nodup_keys_of_pairByKey h),
    exists_eq_right']

theorem perm_swap_of_pairByKey (h : pairByKey key before after = .ok pairs)
    (hswapped : pairByKey key after before = .ok swapped)
    : (pairs.map Diff.swap).Perm swapped := by
  have hpairs := (nodup_keys_of_pairByKey h).of_map
  rw [List.perm_ext_iff_of_nodup (hpairs.map Diff.swap_injective)
    (nodup_keys_of_pairByKey hswapped).of_map]
  intro d
  rw [List.mem_map, mem_of_pairByKey hswapped]
  simp only [mem_of_pairByKey h, Diff.ofSides?_swap (before.find? _), Option.map_eq_some_iff]
  constructor
  . rintro ⟨e, ⟨name, hname⟩, rfl⟩
    exact ⟨name, e, hname, rfl⟩
  . rintro ⟨name, e, hname, rfl⟩
    exact ⟨e, ⟨name, hname⟩, rfl⟩

theorem corresponds_of_pairByKey {R : Diff α → Diff α → Prop} (hR : ∀ d, R d d.swap)
    (h : pairByKey key before after = .ok pairs)
    (hswapped : pairByKey key after before = .ok swapped)
    : Corresponds R pairs swapped := by
  refine ⟨pairs.map Diff.swap, ?_, perm_swap_of_pairByKey h hswapped⟩
  rw [List.forall₂_map_right_iff, List.forall₂_same]
  exact fun d _ => hR d

theorem key_either_swap (h : pairByKey key before after = .ok pairs) {d : Diff α} (hd : d ∈ pairs)
    : key d.swap.either = key d.either := by
  cases d with
  | beforeOnly b => rfl
  | afterOnly a => rfl
  | both b a =>
    have ⟨_, hafter⟩ := sides_of_mem h hd
    have hkey := List.find?_some hafter.symm
    exact of_decide_eq_true hkey

end Lists

namespace Roster

variable {κ : Type} [DecidableEq κ] {r q : Roster κ (Diff α)}

def Mirrors [Sized α] (r q : Roster κ (Diff α)) : Prop :=
  Corresponds (fun e f => f.1 = e.1 ∧ e.2.Mirrors f.2) r.entries q.entries

theorem perm_swap_of_find? (h : ∀ k, q.find? k = (r.find? k).map Diff.swap)
    : (r.entries.map fun e => (e.1, e.2.swap)).Perm q.entries := by
  have hkeys : ((r.entries.map fun e => (e.1, e.2.swap)).map Prod.fst).Nodup := by
    rw [List.map_map]
    exact r.distinct
  rw [List.perm_ext_iff_of_nodup hkeys.of_map q.distinct.of_map]
  intro (k, d)
  rw [← find?_eq_some_iff, h, Option.map_eq_some_iff, List.mem_map]
  simp only [find?_eq_some_iff, Prod.exists, Prod.mk.injEq]
  constructor
  . rintro ⟨k, d, hmem, rfl, rfl⟩
    exact ⟨d, hmem, rfl⟩
  . rintro ⟨d, hmem, rfl⟩
    exact ⟨k, d, hmem, rfl, rfl⟩

theorem mirrors_of_find? [Sized α] (h : ∀ k, q.find? k = (r.find? k).map Diff.swap)
    : r.Mirrors q := by
  refine ⟨_, ?_, perm_swap_of_find? h⟩
  rw [List.forall₂_map_right_iff, List.forall₂_same]
  exact fun e _ => ⟨rfl, Diff.mirrors_swap e.2⟩

theorem mirrors_pair [Sized α] (before after : Roster κ α)
    : (before.pair after).Mirrors (after.pair before) := by
  apply mirrors_of_find?
  intro k
  rw [find?_pair, find?_pair, Diff.ofSides?_swap]

end Roster

structure ContributionDiffs.Mirrors (d e : ContributionDiffs) : Prop where
  sections : d.sections.Mirrors e.sections
  coffGroups : d.coffGroups.Mirrors e.coffGroups

structure ContainerDiff.Mirrors [Container α] (d e : ContainerDiff α) : Prop where
  diff : d.diff.Mirrors e.diff
  contributions : d.contributions.Mirrors e.contributions

structure SectionDiff.Mirrors (d e : SectionDiff) : Prop where
  diff : d.diff.Mirrors e.diff
  coffGroups : d.coffGroups.Mirrors e.coffGroups

section Containers

theorem ContributionDiffs.mirrors_ofSides (before after : Option Contributions)
    : (ofSides before after).Mirrors (ofSides after before) where
  sections := Roster.mirrors_pair _ _
  coffGroups := Roster.mirrors_pair _ _

theorem ContainerDiff.mirrors_ofDiff [Container α] (d : Diff α)
    : (ofDiff d).Mirrors (ofDiff d.swap) where
  diff := d.mirrors_swap
  contributions := by
    unfold ofDiff
    rw [Diff.before?_swap, Diff.after?_swap]
    apply ContributionDiffs.mirrors_ofSides

theorem corresponds_diffContainers [Container α] {task : Task} {before after : List α}
    {diffs swapped : List (ContainerDiff α)}
    (h : (diffContainers task before after).result = .ok diffs)
    (hswapped : (diffContainers task after before).result = .ok swapped)
    : Corresponds ContainerDiff.Mirrors diffs swapped := by
  obtain ⟨_, hpairs, rfl⟩ := result_diffContainers.1 h
  obtain ⟨_, hswappedPairs, rfl⟩ := result_diffContainers.1 hswapped
  exact corresponds_map_of_swap (perm_swap_of_pairByKey hpairs hswappedPairs)
    ContainerDiff.mirrors_ofDiff

end Containers

section Sections

variable {before after : List BinarySection} {diffs swapped : List SectionDiff}

theorem SectionDiff.mirrors_of_ofDiff {pair : Diff BinarySection} {d e : SectionDiff}
    (hd : ofDiff pair = .ok d) (he : ofDiff pair.swap = .ok e)
    : d.Mirrors e := by
  obtain ⟨hdiff, hgroups⟩ := ofDiff_eq_ok hd
  obtain ⟨hswapped, hswappedGroups⟩ := ofDiff_eq_ok he
  constructor
  case diff =>
    rw [hdiff, hswapped]
    exact pair.mirrors_swap
  case coffGroups =>
    apply Roster.mirrors_of_find?
    intro group
    rw [hgroups, hswappedGroups, Diff.before?_swap, Diff.after?_swap, Diff.ofSides?_swap]

theorem corresponds_diffSections (h : diffSections before after = .ok diffs)
    (hswapped : diffSections after before = .ok swapped)
    : Corresponds SectionDiff.Mirrors diffs swapped := by
  have ⟨_, hpairs, hall⟩ := diffSections_eq_ok.1 h
  have ⟨_, hswappedPairs, hswappedAll⟩ := diffSections_eq_ok.1 hswapped
  exact corresponds_of_swap (perm_swap_of_pairByKey hpairs hswappedPairs)
    (Except.mapM_eq_ok.1 hall) (Except.mapM_eq_ok.1 hswappedAll)
    fun _ _ _ => SectionDiff.mirrors_of_ofDiff

end Sections

theorem corresponds_duplicateData {before after : List DuplicateData}
    {diffs swapped : List (Diff DuplicateData)} (h : DuplicateData.diff before after = .ok diffs)
    (hswapped : DuplicateData.diff after before = .ok swapped)
    : Corresponds Diff.MirrorsWaste diffs swapped := by
  obtain ⟨_, hpairs, rfl⟩ := DuplicateData.diff_eq_ok_iff.1 h
  obtain ⟨_, hswappedPairs, rfl⟩ := DuplicateData.diff_eq_ok_iff.1 hswapped
  apply corresponds_map_of_swap (perm_swap_of_pairByKey hpairs hswappedPairs)
  intro d
  rw [Diff.map_swap]
  apply Diff.mirrorsWaste_swap

def HierarchyChange.negate (c : HierarchyChange) : HierarchyChange :=
  { c with wasteChange := -c.wasteChange }

def OverrideChange.negate (c : OverrideChange) : OverrideChange :=
  { c with wasteChange := -c.wasteChange }

structure WastefulVirtualDiff.Mirrors (d e : WastefulVirtualDiff) : Prop where
  exchanged : e.diff = d.diff.swap
  wastedSizeDiff : e.wastedSizeDiff = -d.wastedSizeDiff
  hierarchyChanges : (d.hierarchyChanges.map HierarchyChange.negate).Perm e.hierarchyChanges
  overrideChanges : (d.overrideChanges.map OverrideChange.negate).Perm e.overrideChanges

namespace WastefulVirtualDiff

variable {before after : List WastefulVirtual} {diffs swapped : List WastefulVirtualDiff}

theorem map_negate_changeAll (amount : Int) (overrides : List WastedOverride)
    : (changeAll amount overrides).map OverrideChange.negate = changeAll (-amount) overrides := by
  unfold changeAll
  rw [List.map_map]
  rfl

theorem map_negate_hierarchyChanges (types : List String) (amount : Int)
    : (types.map (HierarchyChange.mk · amount)).map HierarchyChange.negate
        = types.map (HierarchyChange.mk · (-amount)) := by
  rw [List.map_map]
  rfl

theorem mirrors_ofDiff (pair : Diff WastefulVirtual)
    : (ofDiff pair).Mirrors (ofDiff pair.swap) where
  exchanged := by rw [diff_ofDiff, diff_ofDiff]
  wastedSizeDiff := by
    unfold wastedSizeDiff
    rw [diff_ofDiff, diff_ofDiff]
    exact Diff.deltaBy_swap Wasteful.wastedSize pair
  hierarchyChanges := by
    cases pair with
    | beforeOnly b => exact .nil
    | afterOnly a => exact .nil
    | both b a =>
      -- What one direction lists as lost, the other one lists as gained.
      unfold ofDiff Diff.swap
      dsimp only
      rw [List.map_append, map_negate_hierarchyChanges, map_negate_hierarchyChanges, neg_neg]
      exact List.perm_append_comm
  overrideChanges := by
    cases pair with
    | beforeOnly b =>
      unfold ofDiff Diff.swap
      dsimp only
      rw [map_negate_changeAll, neg_neg]
    | afterOnly a =>
      unfold ofDiff Diff.swap
      dsimp only
      rw [map_negate_changeAll]
    | both b a =>
      unfold ofDiff Diff.swap
      dsimp only
      rw [List.map_append, map_negate_changeAll, map_negate_changeAll, neg_neg]
      exact List.perm_append_comm

theorem Mirrors.isUnchanged {d e : WastefulVirtualDiff} (h : d.Mirrors e)
    : e.isUnchanged = d.isUnchanged := by
  have hhierarchy := h.hierarchyChanges.isEmpty_eq
  have hoverride := h.overrideChanges.isEmpty_eq
  rw [List.isEmpty_map] at hhierarchy hoverride
  unfold WastefulVirtualDiff.isUnchanged
  rw [h.exchanged, h.wastedSizeDiff, ← hhierarchy, ← hoverride]
  simp only [neg_eq_zero]
  cases d.diff <;> rfl

theorem perm_swap_of_changed {pairs swapped : List (Diff WastefulVirtual)}
    (hswap : (pairs.map Diff.swap).Perm swapped)
    : ((pairs.filter fun p => !(ofDiff p).isUnchanged).map Diff.swap).Perm
        (swapped.filter fun p => !(ofDiff p).isUnchanged) := by
  have hfilter := hswap.filter fun p => !(ofDiff p).isUnchanged
  rw [List.filter_map] at hfilter
  have hsame : (fun p => !(ofDiff p).isUnchanged) ∘ Diff.swap
      = fun p => !(ofDiff p).isUnchanged := by
    funext p
    exact congrArg (!·) (mirrors_ofDiff p).isUnchanged
  rwa [hsame] at hfilter

theorem corresponds_diff (h : WastefulVirtual.diff before after = .ok diffs)
    (hswapped : WastefulVirtual.diff after before = .ok swapped)
    : Corresponds Mirrors diffs swapped := by
  obtain ⟨pairs, hpairs, rfl⟩ := diff_eq_ok_iff.1 h
  obtain ⟨swappedPairs, hswappedPairs, rfl⟩ := diff_eq_ok_iff.1 hswapped
  rw [List.filter_map, List.filter_map]
  apply corresponds_map_of_swap _ mirrors_ofDiff
  exact perm_swap_of_changed (perm_swap_of_pairByKey hpairs hswappedPairs)

theorem typeName_mem_of_swapped (h : WastefulVirtual.diff before after = .ok diffs)
    (hswapped : WastefulVirtual.diff after before = .ok swapped) {name : String}
    (hname : name ∈ swapped.map typeName)
    : name ∈ diffs.map typeName := by
  obtain ⟨e, he, rfl⟩ := List.mem_map.1 hname
  obtain ⟨d, hd, hmirrors⟩ := (corresponds_diff h hswapped).exists_of_mem he
  rw [List.mem_map]
  refine ⟨d, hd, ?_⟩
  obtain ⟨pairs, hpairs, rfl⟩ := diff_eq_ok_iff.1 h
  obtain ⟨pair, hpair, rfl⟩ := List.mem_map.1 (List.mem_of_mem_filter hd)
  unfold typeName
  rw [hmirrors.exchanged, diff_ofDiff]
  exact (key_either_swap hpairs hpair).symm

theorem typeName_mem_iff (h : WastefulVirtual.diff before after = .ok diffs)
    (hswapped : WastefulVirtual.diff after before = .ok swapped) (name : String)
    : name ∈ diffs.map typeName ↔ name ∈ swapped.map typeName := by
  exact ⟨typeName_mem_of_swapped hswapped h, typeName_mem_of_swapped h hswapped⟩

end WastefulVirtualDiff

namespace Comparison

/-- Whether a type wastes slots in both builds and a comparison leaves it out. -/
def Drops (c : Comparison) (before after : Analysis) (typeName : String) : Prop :=
  typeName ∈ before.wastefulVirtuals.map (·.typeName)
    ∧ typeName ∈ after.wastefulVirtuals.map (·.typeName)
    ∧ typeName ∉ c.wastefulVirtuals.map (·.typeName)

structure Mirrors (c d : Comparison) : Prop where
  sections : Corresponds SectionDiff.Mirrors c.sections d.sections
  libs : Corresponds ContainerDiff.Mirrors c.libs d.libs
  compilands : Corresponds ContainerDiff.Mirrors c.compilands d.compilands
  sourceFiles : Corresponds ContainerDiff.Mirrors c.sourceFiles d.sourceFiles
  symbols : Corresponds Diff.Mirrors c.symbols d.symbols
  duplicateData : Corresponds Diff.MirrorsWaste c.duplicateData d.duplicateData
  foldability : Corresponds Diff.MirrorsWaste c.foldability d.foldability
  wastefulVirtuals : Corresponds WastefulVirtualDiff.Mirrors c.wastefulVirtuals d.wastefulVirtuals

variable {c d : Comparison} {x y : Analysis}

theorem Pairs.mirrors (hc : c.Pairs x y) (hd : d.Pairs y x) : c.Mirrors d where
  sections := corresponds_diffSections hc.sections hd.sections
  libs := corresponds_diffContainers hc.libs hd.libs
  compilands := corresponds_diffContainers hc.compilands hd.compilands
  sourceFiles := corresponds_diffContainers hc.sourceFiles hd.sourceFiles
  symbols := corresponds_of_pairByKey Diff.mirrors_swap hc.symbols hd.symbols
  duplicateData := corresponds_duplicateData hc.duplicateData hd.duplicateData
  foldability := corresponds_of_pairByKey Diff.mirrorsWaste_swap hc.foldability hd.foldability
  wastefulVirtuals :=
    WastefulVirtualDiff.corresponds_diff hc.wastefulVirtuals hd.wastefulVirtuals

theorem Pairs.drops_iff (hc : c.Pairs x y) (hd : d.Pairs y x) (typeName : String)
    : c.Drops x y typeName ↔ d.Drops y x typeName := by
  unfold Drops
  rw [WastefulVirtualDiff.typeName_mem_iff hc.wastefulVirtuals hd.wastefulVirtuals]
  exact and_left_comm

end Comparison

end Footprint
