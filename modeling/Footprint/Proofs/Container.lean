import Footprint.Container
import Footprint.Proofs.Contributions
import Footprint.Proofs.Except
import Footprint.Proofs.Pass
import Mathlib.Data.List.Induction

namespace Footprint

section Records

variable {α : Type}

theorem saneContributions_eq_ok {x : Except Place α} {a : α}
    : saneContributions x = .ok a ↔ x = .ok a := by
  cases x <;> simp [saneContributions]

variable {r : CompilandRecord} {c : Compiland} {q : SourceFileRecord} {f : SourceFile}

theorem Compiland.ofRecord_eq_ok
    : ofRecord r = .ok c
        ↔ c.name = r.name ∧ c.lib = r.lib
          ∧ Contributions.ofRecords r.contributions = .ok c.contributions := by
  unfold ofRecord
  simp only [Except.bind_eq_ok, saneContributions_eq_ok, Except.pure_eq_ok, Except.ok.injEq]
  constructor
  . rintro ⟨contributions, h, rfl⟩
    exact ⟨rfl, rfl, h⟩
  . intro ⟨hname, hlib, h⟩
    refine ⟨c.contributions, h, ?_⟩
    rw [← hname, ← hlib]

theorem SourceFile.ofRecord_eq_ok
    : ofRecord q = .ok f
        ↔ f.name = q.name ∧ Contributions.ofRecords q.contributions = .ok f.contributions := by
  unfold ofRecord
  simp only [Except.bind_eq_ok, saneContributions_eq_ok, Except.pure_eq_ok, Except.ok.injEq]
  constructor
  . rintro ⟨contributions, h, rfl⟩
    exact ⟨rfl, h⟩
  . intro ⟨hname, h⟩
    refine ⟨f.contributions, h, ?_⟩
    rw [← hname]

theorem Snapshot.result_buildCompilands (s : Snapshot)
    : s.buildCompilands.result = s.compilands.mapM Compiland.ofRecord := by
  apply Sweep.result_mapEach

theorem Snapshot.result_buildSourceFiles (s : Snapshot)
    : s.buildSourceFiles.result = s.sourceFiles.mapM SourceFile.ofRecord := by
  apply Sweep.result_mapEach

end Records

def compilandsIn (lib : String) (compilands : List Compiland) : List Compiland :=
  compilands.filter (·.lib = lib)

/-- Whether a lib has some compilands as its members and contributes what they do together. -/
structure Lib.Gathers (l : Lib) (members : List Compiland) : Prop where
  compilands : l.compilands = firstSeen (members.map (·.name))
  contributions : Contributions.mergeAll (members.map (·.contributions)) = .ok l.contributions

structure LibsOf (libs : List Lib) (compilands : List Compiland) : Prop where
  names : libs.map (·.name) = firstSeen (compilands.map (·.lib))
  gathers : ∀ l ∈ libs, l.Gathers (compilandsIn l.name compilands)

namespace LibsOf

structure Kept (libs : Roster String Lib) (compilands : List Compiland) : Prop where
  keys : libs.keys = firstSeen (compilands.map (·.lib))
  gathers : ∀ name l, libs.find? name = some l
    → l.name = name ∧ l.Gathers (compilandsIn name compilands)

variable {libs : Roster String Lib} {compilands : List Compiland} {c : Compiland}

theorem kept_empty : Kept .empty [] where
  keys := rfl
  gathers name l h := by
    rw [Roster.find?_empty] at h
    cases h

theorem compilandsIn_append_of_ne {name : String} (h : c.lib ≠ name)
    : compilandsIn name (compilands ++ [c]) = compilandsIn name compilands := by
  unfold compilandsIn
  simp [h]

theorem compilandsIn_append_self
    : compilandsIn c.lib (compilands ++ [c]) = compilandsIn c.lib compilands ++ [c] := by
  unfold compilandsIn
  simp

theorem gathers_nil (name : String)
    : Lib.Gathers { name, compilands := [], contributions := .empty } [] where
  compilands := rfl
  contributions := rfl

theorem Kept.gathers_current (h : Kept libs compilands) (name : String)
    : ∃ l, (libs.find? name).getD { name, compilands := [], contributions := .empty } = l
        ∧ l.name = name ∧ l.Gathers (compilandsIn name compilands) := by
  cases hfind : libs.find? name with
  | some l => exact ⟨l, rfl, h.gathers name l hfind⟩
  | none =>
    -- The lib is new, so no compiland so far names it.
    rw [Roster.find?_eq_none_iff, h.keys, mem_firstSeen] at hfind
    have hnil : compilandsIn name compilands = [] := by
      unfold compilandsIn
      rw [List.filter_eq_nil_iff]
      intro c hc
      simp only [decide_eq_true_eq]
      rintro rfl
      exact hfind (List.mem_map.2 ⟨c, hc, rfl⟩)
    rw [hnil]
    exact ⟨_, rfl, rfl, gathers_nil name⟩

theorem add_of_gathers {l : Lib} {members : List Compiland} (h : l.Gathers members)
    {d : Contributions}
    (hmerge : Contributions.mergeAll ((members ++ [c]).map (·.contributions)) = .ok d)
    : ∃ next, l.add c = .ok next ∧ next.name = l.name ∧ next.Gathers (members ++ [c]) := by
  have hstep : l.contributions.merge c.contributions = .ok d := by
    rw [List.map_append, List.map_singleton, Contributions.mergeAll_append_singleton,
      h.contributions] at hmerge
    exact hmerge
  unfold Lib.add
  rw [hstep]
  refine ⟨_, rfl, rfl, ?_, hmerge⟩
  rw [List.map_append, List.map_singleton, firstSeen_append_singleton, h.compilands]
  simp only [mem_firstSeen]

theorem Kept.addToLib (h : Kept libs compilands) {d : Contributions}
    (hmerge : Contributions.mergeAll
      ((compilandsIn c.lib (compilands ++ [c])).map (·.contributions)) = .ok d)
    : ∃ next, addToLib libs c = .ok next ∧ Kept next (compilands ++ [c]) := by
  have ⟨l, hl, hname, hgathers⟩ := h.gathers_current c.lib
  rw [compilandsIn_append_self] at hmerge
  have ⟨grown, hadd, hgrown, hmembers⟩ := add_of_gathers hgathers hmerge
  refine ⟨libs.insert c.lib grown, ?_, ?_, ?_⟩
  . unfold Footprint.addToLib
    simp only [hl, hadd]
    rfl
  . rw [List.map_append, List.map_singleton]
    exact Roster.keys_insert_of_firstSeen h.keys c.lib grown
  . intro name found hfound
    rw [Roster.find?_insert] at hfound
    split at hfound
    . next heq =>
      cases hfound
      rw [heq, compilandsIn_append_self]
      exact ⟨hgrown.trans hname, hmembers⟩
    . next hne =>
      rw [compilandsIn_append_of_ne fun heq => hne heq.symm]
      exact h.gathers name found hfound

theorem exists_kept (h : ∀ p, Extent.Fits (compilands.map (·.contributions.extentAt p)).sum)
    : ∃ libs, compilands.foldlM Footprint.addToLib .empty = .ok libs ∧ Kept libs compilands := by
  induction compilands using List.reverseRecOn with
  | nil => exact ⟨.empty, rfl, kept_empty⟩
  | append_singleton compilands c ih =>
    have hbefore : ∀ p, Extent.Fits (compilands.map (·.contributions.extentAt p)).sum := by
      intro p
      apply (h p).of_le
      rw [List.map_append, List.sum_append]
      exact le_self_add
    have ⟨libs, hfold, hkept⟩ := ih hbefore
    -- What one lib contributes to a place is part of what all compilands do.
    have ⟨d, hmerge⟩ : ∃ d, Contributions.mergeAll
        ((compilandsIn c.lib (compilands ++ [c])).map (·.contributions)) = .ok d := by
      apply Contributions.exists_mergeAll
      intro p
      apply (h p).of_le
      rw [List.map_map]
      apply List.Sublist.sum_le_sum
      . exact (List.filter_sublist).map _
      . simp
    have ⟨next, hnext, hkept⟩ := hkept.addToLib hmerge
    refine ⟨next, ?_, hkept⟩
    rw [List.foldlM_append, hfold]
    show [c].foldlM Footprint.addToLib libs = _
    rw [List.foldlM_cons, hnext]
    rfl

theorem Kept.libsOf (h : Kept libs compilands) : LibsOf libs.values compilands where
  names := by
    have hname : ∀ name ∈ libs.keys, (libs.find? name).map (·.name) = some name := by
      intro name hmem
      have ⟨l, hl⟩ := Option.isSome_iff_exists.1 (Roster.find?_isSome_iff.2 hmem)
      rw [hl, Option.map_some, (h.gathers name l hl).1]
    rw [Roster.values_eq_filterMap, List.map_filterMap, ← h.keys]
    rw [List.filterMap_congr hname, List.filterMap_some]
  gathers l hl := by
    have ⟨name, hfind⟩ := Roster.mem_values_iff.1 hl
    have ⟨hname, hgathers⟩ := h.gathers name l hfind
    rw [hname]
    exact hgathers

end LibsOf

theorem result_buildLibs (compilands : List Compiland)
    : (buildLibs compilands).result
        = (compilands.foldlM addToLib .empty).map Roster.values := by
  unfold buildLibs
  rw [Pass.result_bind, Sweep.result_run _ fun sweep _ => Sweep.exists_result_advance sweep 1]
  cases compilands.foldlM addToLib .empty <;> rfl

theorem exists_libsOf {compilands : List Compiland}
    (h : ∀ p, Extent.Fits (compilands.map (·.contributions.extentAt p)).sum)
    : ∃ libs, (buildLibs compilands).result = .ok libs ∧ LibsOf libs compilands := by
  have ⟨libs, hfold, hkept⟩ := LibsOf.exists_kept h
  refine ⟨libs.values, ?_, hkept.libsOf⟩
  rw [result_buildLibs, hfold]
  rfl

end Footprint
