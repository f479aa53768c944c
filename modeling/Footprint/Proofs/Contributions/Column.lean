import Footprint.Contributions.Column
import Footprint.Proofs.Contributions
import Footprint.Proofs.Pairing

namespace Footprint

theorem Place.columnTitle_injective : Function.Injective Place.columnTitle := by
  intro p q h
  cases p <;> cases q <;>
    simp_all [columnTitle, toString, ← String.toList_inj, String.toList_append]

section Columns

variable {sections coffGroups : List String}

theorem nodup_columns (hsections : sections.Nodup) (hgroups : coffGroups.Nodup)
    : (columns sections coffGroups).Nodup := by
  unfold columns
  refine List.nodup_append.2 ⟨hsections.map ?_, hgroups.map ?_, ?_⟩
  . exact fun _ _ => Place.binarySection.inj
  . exact fun _ _ => Place.coffGroup.inj
  . simp

theorem filter_isSection_columns (sections coffGroups : List String)
    : (columns sections coffGroups).filter Place.isSection = sections.map .binarySection := by
  unfold columns
  simp [List.filter_append, List.filter_map, Function.comp_def, Place.isSection]

theorem filter_not_isSection_columns (sections coffGroups : List String)
    : (columns sections coffGroups).filter (!·.isSection) = coffGroups.map .coffGroup := by
  unfold columns
  simp [List.filter_append, List.filter_map, Function.comp_def, Place.isSection]

end Columns

section Containers

variable {α : Type}

theorem Contributions.sizeAt_eq_elim (c : Contributions) (p : Place)
    : c.sizeAt p = (c.find? p).elim 0 Extent.size := by
  unfold sizeAt extentAt
  cases c.find? p <;> rfl

theorem elim_find?_of_not_mem {rosterOf : α → Roster String Extent} {rows : List α} {row : α}
    (hrow : row ∈ rows) (key : String)
    (hkey : key ∉ firstSeen (rows.flatMap fun row => (rosterOf row).keys))
    : ((rosterOf row).find? key).elim 0 Extent.size = 0 := by
  have hnone : (rosterOf row).find? key = none := by
    rw [Roster.find?_eq_none_iff]
    intro hmem
    exact hkey (mem_firstSeen.2 (List.mem_flatMap.2 ⟨row, hrow, hmem⟩))
  rw [hnone]
  rfl

variable [Container α]

theorem columns_lose_nothing (containers : List α)
    : ((columnsOf containers).map Place.columnTitle).Nodup
      ∧ (∃ sections coffGroups,
          ListsFirstSeen sections
            (containers.flatMap fun c => (Container.contributions c).sections.keys)
          ∧ ListsFirstSeen coffGroups
            (containers.flatMap fun c => (Container.contributions c).coffGroups.keys)
          ∧ (columnsOf containers).map Place.columnTitle
            = sections.map ("Section: " ++ ·) ++ coffGroups.map ("COFF Group: " ++ ·))
      ∧ ∀ c ∈ containers,
        (((columnsOf containers).filter Place.isSection).map
            (Container.contributions c).sizeAt).sum
          = ((Container.contributions c).sections.values.map (·.size)).sum
        ∧ (((columnsOf containers).filter (!·.isSection)).map
            (Container.contributions c).sizeAt).sum
          = ((Container.contributions c).coffGroups.values.map (·.size)).sum := by
  have hsections := listsFirstSeen_firstSeen
    (containers.flatMap fun c => (Container.contributions c).sections.keys)
  have hgroups := listsFirstSeen_firstSeen
    (containers.flatMap fun c => (Container.contributions c).coffGroups.keys)
  refine ⟨?_, ⟨_, _, hsections, hgroups, ?_⟩, ?_⟩
  . exact (nodup_columns hsections.nodup hgroups.nodup).map Place.columnTitle_injective
  . unfold columnsOf columns
    rw [List.map_append, List.map_map, List.map_map]
    rfl
  . intro c hc
    unfold columnsOf
    rw [filter_isSection_columns, filter_not_isSection_columns, List.map_map, List.map_map]
    simp only [Function.comp_def, Contributions.sizeAt_eq_elim]
    constructor
    . apply Roster.sum_elim_find? Extent.size _ hsections.nodup
      exact elim_find?_of_not_mem hc
    . apply Roster.sum_elim_find? Extent.size _ hgroups.nodup
      exact elim_find?_of_not_mem hc

-- A name that looks like the title of another column gets a title of its own.
example
    : (columns [".rsrc"] [".rsrc", "Section: .rsrc"]).map Place.columnTitle
      = ["Section: .rsrc", "COFF Group: .rsrc", "COFF Group: Section: .rsrc"] := by
  decide

end Containers

section Diffs

variable {α : Type} {diffs : List (ContainerDiff α)} {d : ContainerDiff α}

/--
Whether some names are those of the places of a kind that have changed in some row, each once, so
that nothing has changed at the other places of this kind in any row.
-/
structure ShowsChanges (diffs : List (ContainerDiff α)) (place : String → Place)
    (names : List String) : Prop where
  nodup : names.Nodup
  mem_iff : ∀ name, name ∈ names ↔ ∃ d ∈ diffs,
    d.contributions.sizeDiffAt (place name) ≠ 0 ∨ d.contributions.virtualSizeDiffAt (place name) ≠ 0
  dropped : ∀ name, name ∉ names → ∀ d ∈ diffs,
    d.contributions.sizeDiffAt (place name) = 0 ∧ d.contributions.virtualSizeDiffAt (place name) = 0

theorem mem_diffKeys_true {r : Roster String (Diff Extent)} {name : String}
    : name ∈ diffKeys true r
        ↔ (r.find? name).elim 0 Diff.sizeDiff ≠ 0
          ∨ (r.find? name).elim 0 Diff.virtualSizeDiff ≠ 0 := by
  have hmem : name ∈ diffKeys true r ↔ ∃ d, r.find? name = some d ∧ d.isSignificant = true := by
    unfold diffKeys
    simp [Roster.find?_eq_some_iff]
  rw [hmem]
  cases r.find? name with
  | none => simp
  | some d => simp [Diff.isSignificant]

section Kind

-- Sections and COFF groups are kept in rosters of their own, but in the same way.
variable {place : String → Place} {rosterOf : ContributionDiffs → Roster String (Diff Extent)}
  (hfind : ∀ c name, ContributionDiffs.find? c (place name) = (rosterOf c).find? name)
include hfind

theorem showsChanges_significant
    : ShowsChanges diffs place
        (firstSeen (diffs.flatMap fun d => diffKeys true (rosterOf d.contributions))) := by
  have hmem (name : String)
      : name ∈ firstSeen (diffs.flatMap fun d => diffKeys true (rosterOf d.contributions))
        ↔ ∃ d ∈ diffs, d.contributions.sizeDiffAt (place name) ≠ 0
          ∨ d.contributions.virtualSizeDiffAt (place name) ≠ 0 := by
    unfold ContributionDiffs.sizeDiffAt ContributionDiffs.virtualSizeDiffAt
    simp only [mem_firstSeen, List.mem_flatMap, mem_diffKeys_true, hfind]
  constructor
  case nodup => apply nodup_firstSeen
  case mem_iff => exact hmem
  case dropped =>
    intro name hname d hd
    rw [hmem] at hname
    push Not at hname
    exact hname d hd

theorem ShowsChanges.sum_sizeDiffAt {names : List String} (h : ShowsChanges diffs place names)
    (hd : d ∈ diffs)
    : ((names.map place).map d.contributions.sizeDiffAt).sum
        = ((rosterOf d.contributions).values.map Diff.sizeDiff).sum := by
  have hsize (name : String) : d.contributions.sizeDiffAt (place name)
      = ((rosterOf d.contributions).find? name).elim 0 Diff.sizeDiff := by
    unfold ContributionDiffs.sizeDiffAt
    rw [hfind]
  rw [List.map_map]
  simp only [Function.comp_def, hsize]
  apply Roster.sum_elim_find? Diff.sizeDiff _ h.nodup
  intro name hname
  rw [← hsize]
  exact (h.dropped name hname d hd).1

end Kind

theorem significant_columns_hide_no_change (diffs : List (ContainerDiff α))
    : ShowsChanges diffs .binarySection (sectionDiffsIn true diffs)
      ∧ ShowsChanges diffs .coffGroup (coffGroupDiffsIn true diffs)
      ∧ ∀ d ∈ diffs,
        (((diffColumnsOf true diffs).filter Place.isSection).map d.contributions.sizeDiffAt).sum
          = (d.contributions.sections.values.map Diff.sizeDiff).sum
        ∧ (((diffColumnsOf true diffs).filter (!·.isSection)).map d.contributions.sizeDiffAt).sum
          = (d.contributions.coffGroups.values.map Diff.sizeDiff).sum := by
  have hsections : ShowsChanges diffs .binarySection (sectionDiffsIn true diffs) :=
    showsChanges_significant fun _ _ => rfl
  have hgroups : ShowsChanges diffs .coffGroup (coffGroupDiffsIn true diffs) :=
    showsChanges_significant fun _ _ => rfl
  refine ⟨hsections, hgroups, ?_⟩
  intro d hd
  unfold diffColumnsOf
  rw [filter_isSection_columns, filter_not_isSection_columns]
  constructor
  . exact ShowsChanges.sum_sizeDiffAt (fun _ _ => rfl) hsections hd
  . exact ShowsChanges.sum_sizeDiffAt (fun _ _ => rfl) hgroups hd

end Diffs

end Footprint
