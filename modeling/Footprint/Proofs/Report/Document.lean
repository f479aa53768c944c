import Footprint.Proofs.Snapshot.Spelling
import Footprint.Report.Document
import Mathlib.Logic.Function.Basic
import Mathlib.Tactic.MkIffOfInductiveProp

/-!
This module contains what the document of a report tells of it. Reports have the same document if
and only if they are alike, that is if they differ in nothing but the contents of static data, the
code of functions, the virtual sizes of duplicate data and digits of similarities that are not
written.
-/

namespace Footprint

open Function (Injective)

namespace Json

variable {α : Type} {item : α → Json} {R : α → α → Prop}

@[simp]
theorem text_inj {s t : String} : text s = text t ↔ s = t := by
  simp [text]

@[simp]
theorem natural_inj {m n : Nat} : natural m = natural n ↔ m = n := by
  simp [natural]

@[simp]
theorem integer_inj {i j : Int} : integer i = integer j ↔ i = j := by
  refine ⟨fun h => ?_, congrArg integer⟩
  unfold integer at h
  split at h <;> split at h <;> simp at h <;> omega

@[simp]
theorem record_inj {members others : List (String × Json)}
    : record members = record others ↔ members = others := by
  refine ⟨fun h => ?_, congrArg record⟩
  rw [record, record, object.injEq] at h
  apply Function.Injective.list_map _ h
  rintro ⟨key, value⟩ ⟨key', value'⟩ ⟨⟩
  rfl

theorem record_ne_null (members : List (String × Json)) : record members ≠ null :=
  nofun

@[simp]
theorem binary32_inj {x y : Float32}
    : binary32 x = binary32 y ↔ Decimal.shortestText? x = Decimal.shortestText? y := by
  unfold binary32
  split <;> split <;> simp_all

theorem list_eq_iff (h : ∀ x y, item x = item y ↔ R x y) {xs ys : List α}
    : list item xs = list item ys ↔ List.Forall₂ R xs ys := by
  have hrel : (fun x y => item x = item y) = R := funext₂ fun x y => propext (h x y)
  rw [list, list, array.injEq, ← List.forall₂_eq_eq_eq, List.forall₂_map_left_iff,
    List.forall₂_map_right_iff, hrel]

theorem list_eq_iff_map {β : Type} {f : α → β} (h : ∀ x y, item x = item y ↔ f x = f y)
    {xs ys : List α}
    : list item xs = list item ys ↔ xs.map f = ys.map f := by
  rw [list_eq_iff h, ← List.forall₂_eq_eq_eq, List.forall₂_map_left_iff,
    List.forall₂_map_right_iff]

theorem list_inj (h : Injective item) {xs ys : List α}
    : list item xs = list item ys ↔ xs = ys := by
  rw [list, list, array.injEq]
  exact h.list_map.eq_iff

@[simp]
theorem texts_inj {xs ys : List String} : list text xs = list text ys ↔ xs = ys :=
  list_inj fun _ _ => text_inj.1

end Json

section Lossless

open Json

theorem Extent.toJson_injective (name : String) : Injective (Extent.toJson name) := by
  rintro ⟨_, _⟩ ⟨_, _⟩ h
  simpa [Extent.toJson] using h

theorem Roster.toJson_injective {α : Type} {value : String → α → Json}
    (h : ∀ key, Injective (value key))
    : Injective (Roster.toJson value) := by
  rintro ⟨es, _⟩ ⟨fs, _⟩ hrecord
  rw [Roster.toJson, Roster.toJson, record_inj] at hrecord
  have hentry : Injective fun e : String × α => (e.1, value e.1 e.2) := by
    rintro ⟨key, a⟩ ⟨key', b⟩ heq
    rw [Prod.mk.injEq] at heq
    obtain ⟨rfl, hvalue⟩ := heq
    exact congrArg (Prod.mk key) (h key hvalue)
  cases hentry.list_map hrecord
  rfl

theorem Contributions.toJson_injective : Injective Contributions.toJson := by
  rintro ⟨_, _⟩ ⟨_, _⟩ h
  simpa [Contributions.toJson, (Roster.toJson_injective Extent.toJson_injective).eq_iff] using h

theorem CoffGroup.toJson_injective : Injective CoffGroup.toJson := by
  rintro ⟨_, _, _, _⟩ ⟨_, _, _, _⟩ h
  simpa [CoffGroup.toJson] using h

theorem BinarySection.toJson_injective : Injective BinarySection.toJson := by
  rintro ⟨_, _, _, _⟩ ⟨_, _, _, _⟩ h
  simpa [BinarySection.toJson, list_inj CoffGroup.toJson_injective] using h

theorem Lib.toJson_injective : Injective Lib.toJson := by
  rintro ⟨_, _, _⟩ ⟨_, _, _⟩ h
  simp [Lib.toJson, Contributions.toJson_injective.eq_iff] at h
  simp [h]

theorem Compiland.toJson_injective : Injective Compiland.toJson := by
  rintro ⟨_, _, _⟩ ⟨_, _, _⟩ h
  simp [Compiland.toJson, Contributions.toJson_injective.eq_iff] at h
  simp [h]

theorem SourceFile.toJson_injective : Injective SourceFile.toJson := by
  rintro ⟨_, _⟩ ⟨_, _⟩ h
  simp [SourceFile.toJson, Contributions.toJson_injective.eq_iff] at h
  simp [h]

theorem Symbol.toJson_injective : Injective Symbol.toJson := by
  rintro ⟨_, _, _, _⟩ ⟨_, _, _, _⟩ h
  simpa [Symbol.toJson] using h

theorem WastedOverride.toJson_injective : Injective WastedOverride.toJson := by
  rintro ⟨_, _⟩ ⟨_, _⟩ h
  simpa [WastedOverride.toJson] using h

theorem WastefulVirtual.toJson_injective : Injective WastefulVirtual.toJson := by
  rintro ⟨_, _, _, _, _, _⟩ ⟨_, _, _, _, _, _⟩ h
  simp [WastefulVirtual.toJson, list_inj WastedOverride.toJson_injective] at h
  simp [h]

theorem HierarchyChange.toJson_injective : Injective HierarchyChange.toJson := by
  rintro ⟨_, _⟩ ⟨_, _⟩ h
  simpa [HierarchyChange.toJson] using h

theorem OverrideChange.toJson_injective : Injective OverrideChange.toJson := by
  rintro ⟨_, _⟩ ⟨_, _⟩ h
  simpa [OverrideChange.toJson, WastedOverride.toJson_injective.eq_iff] using h

section Diffs

variable {α : Type} {value : α → Json} {R : α → α → Prop} {d e : Diff α}

inductive Diff.Alike (R : α → α → Prop) : Diff α → Diff α → Prop where
  | beforeOnly {a b : α} (before : R a b) : Alike R (.beforeOnly a) (.beforeOnly b)
  | afterOnly {a b : α} (after : R a b) : Alike R (.afterOnly a) (.afterOnly b)
  | both {a a' b b' : α} (before : R a b) (after : R a' b') : Alike R (.both a a') (.both b b')

theorem Diff.sides_eq_iff (hnull : ∀ a, value a ≠ .null) (h : ∀ a b, value a = value b ↔ R a b)
    : Json.optional value d.before? = Json.optional value e.before?
        ∧ Json.optional value d.after? = Json.optional value e.after?
      ↔ d.Alike R e := by
  have hsome (a b : α)
      : Json.optional value (some a) = Json.optional value (some b) ↔ R a b := h a b
  have hleft (a : α) : ¬Json.optional value (some a) = Json.optional value none := hnull a
  have hright (a : α) : ¬Json.optional value none = Json.optional value (some a) :=
    (hnull a).symm
  constructor
  . cases d <;> cases e <;> simp [before?, after?, hsome, hleft, hright]
    . exact .beforeOnly
    . exact .afterOnly
    . exact .both
  . rintro (hbefore | hafter | ⟨hbefore, hafter⟩) <;>
      simp_all [before?, after?]

theorem Diff.alike_eq_iff : d.Alike (· = ·) e ↔ d = e := by
  constructor
  . rintro (rfl | rfl | ⟨rfl, rfl⟩) <;> rfl
  . rintro rfl
    cases d
    . exact .beforeOnly rfl
    . exact .afterOnly rfl
    . exact .both rfl rfl

theorem Diff.Alike.map_either {β : Type} (h : d.Alike R e) {f : α → β}
    (hf : ∀ a b, R a b → f a = f b)
    : f d.either = f e.either := by
  rcases h with hbefore | hafter | ⟨hbefore, _⟩ <;> apply hf <;> assumption

theorem Diff.Alike.elim_after? (h : d.Alike R e) {f : α → Nat} (hf : ∀ a b, R a b → f a = f b)
    : d.after?.elim 0 f = e.after?.elim 0 f := by
  rcases h with hbefore | hafter | ⟨_, hafter⟩
  . rfl
  . exact hf _ _ hafter
  . exact hf _ _ hafter

theorem Diff.Alike.deltaBy_eq (h : d.Alike R e) {f : α → Nat} (hf : ∀ a b, R a b → f a = f b)
    : d.deltaBy f = e.deltaBy f := by
  unfold deltaBy
  rw [h.elim_after? hf]
  rcases h with hbefore | hafter | ⟨hbefore, _⟩
  . simp [before?, hf _ _ hbefore]
  . rfl
  . simp [before?, hf _ _ hbefore]

theorem Diff.eq_of_sides_eq (h : Injective value) (hnull : ∀ a, value a ≠ .null)
    (hsides : Json.optional value d.before? = Json.optional value e.before?
      ∧ Json.optional value d.after? = Json.optional value e.after?)
    : d = e :=
  Diff.alike_eq_iff.1 ((Diff.sides_eq_iff hnull fun _ _ => h.eq_iff).1 hsides)

theorem Diff.members_injective [Sized α] (name : Diff α → String) (h : Injective value)
    (hnull : ∀ a, value a ≠ .null)
    : Injective fun d : Diff α => d.members (name d) value := by
  intro d e hmembers
  simp only [members, List.cons.injEq, Prod.mk.injEq, true_and, and_true] at hmembers
  exact Diff.eq_of_sides_eq h hnull hmembers.2.2.2

theorem Diff.toJson_injective [Entity α] (h : Injective value) (hnull : ∀ a, value a ≠ .null)
    : Injective (Diff.toJson value) := by
  intro d e hrecord
  exact Diff.members_injective Diff.name h hnull (record_inj.1 hrecord)

theorem Diff.extentToJson_injective (name : String) : Injective (Diff.extentToJson name) := by
  intro d e hrecord
  exact Diff.members_injective (fun _ => name) (Extent.toJson_injective name)
    (fun _ => record_ne_null _) (record_inj.1 hrecord)

theorem ContributionDiffs.toJson_injective : Injective ContributionDiffs.toJson := by
  rintro ⟨_, _⟩ ⟨_, _⟩ h
  simpa [ContributionDiffs.toJson, (Roster.toJson_injective Diff.extentToJson_injective).eq_iff]
    using h

theorem ContainerDiff.toJson_injective [Container α] (h : Injective value)
    (hnull : ∀ a, value a ≠ .null)
    : Injective (ContainerDiff.toJson value) := by
  rintro ⟨d, contributions⟩ ⟨e, others⟩ hrecord
  rw [ContainerDiff.toJson, ContainerDiff.toJson, record_inj] at hrecord
  obtain ⟨hmembers, hcontributions⟩ := List.append_inj hrecord rfl
  cases Diff.members_injective Diff.name h hnull hmembers
  simpa [ContributionDiffs.toJson_injective.eq_iff] using hcontributions

theorem SectionDiff.toJson_injective : Injective SectionDiff.toJson := by
  rintro ⟨d, coffGroups⟩ ⟨e, others⟩ hrecord
  rw [SectionDiff.toJson, SectionDiff.toJson, record_inj] at hrecord
  obtain ⟨hmembers, hcoffGroups⟩ := List.append_inj hrecord rfl
  have hgroup := Diff.toJson_injective CoffGroup.toJson_injective fun _ => record_ne_null _
  cases Diff.members_injective Diff.name BinarySection.toJson_injective (fun _ => record_ne_null _)
    hmembers
  simpa [(Roster.toJson_injective fun _ => hgroup).eq_iff] using hcoffGroups

theorem WastefulVirtualDiff.toJson_injective : Injective WastefulVirtualDiff.toJson := by
  rintro ⟨d, hierarchyChanges, overrideChanges⟩ ⟨e, _, _⟩ h
  simp [WastefulVirtualDiff.toJson, list_inj HierarchyChange.toJson_injective,
    list_inj OverrideChange.toJson_injective] at h
  obtain ⟨_, _, _, _, rfl, rfl, hsides⟩ := h
  cases Diff.eq_of_sides_eq WastefulVirtual.toJson_injective (fun _ => record_ne_null _) hsides
  rfl

end Diffs

theorem ChangeTotals.toJson_injective : Injective ChangeTotals.toJson := by
  rintro ⟨⟩ ⟨⟩ h
  simpa [ChangeTotals.toJson] using h

theorem WasteTotals.toJson_injective : Injective WasteTotals.toJson := by
  rintro ⟨⟩ ⟨⟩ h
  simpa [WasteTotals.toJson] using h

theorem WasteDiffTotals.toJson_injective : Injective WasteDiffTotals.toJson := by
  rintro ⟨⟩ ⟨⟩ h
  simpa [WasteDiffTotals.toJson] using h

theorem SingleTotals.toJson_injective : Injective SingleTotals.toJson := by
  rintro ⟨⟩ ⟨⟩ h
  simpa [SingleTotals.toJson, WasteTotals.toJson_injective.eq_iff] using h

theorem DiffTotals.toJson_injective : Injective DiffTotals.toJson := by
  rintro ⟨⟩ ⟨⟩ h
  simpa [DiffTotals.toJson, ChangeTotals.toJson_injective.eq_iff,
    WasteDiffTotals.toJson_injective.eq_iff] using h

end Lossless

section Lossy

open Json

theorem StaticData.toJson_eq_iff {d e : StaticData}
    : d.toJson = e.toJson ↔ d.withoutBytes = e.withoutBytes := by
  cases d
  cases e
  simp [StaticData.toJson, withoutBytes]

theorem TemplatedFunction.toJson_eq_iff {f g : TemplatedFunction}
    : f.toJson = g.toJson ↔ f.withoutCode = g.withoutCode := by
  cases f
  cases g
  simp [TemplatedFunction.toJson, withoutCode]

@[mk_iff]
structure DuplicateData.Alike (d e : DuplicateData) : Prop where
  symbol : d.symbol.withoutBytes = e.symbol.withoutBytes
  referencedIn : d.referencedIn = e.referencedIn
  totalSize : d.totalSize = e.totalSize
  wastedSize : d.wastedSize = e.wastedSize

theorem DuplicateData.toJson_eq_iff {d e : DuplicateData}
    : d.toJson = e.toJson ↔ d.Alike e := by
  simp [DuplicateData.toJson, StaticData.toJson_eq_iff, DuplicateData.alike_iff]

/--
Whether items differ at most in the code of their functions, in functions of one name that are
unique, and in digits of their similarity that are not written.
-/
@[mk_iff]
structure Foldability.Alike (f g : Foldability) : Prop where
  templateName : f.templateName = g.templateName
  symbols : f.symbols.map TemplatedFunction.withoutCode
    = g.symbols.map TemplatedFunction.withoutCode
  uniqueNames : f.uniqueSymbols.map (·.name) = g.uniqueSymbols.map (·.name)
  totalSize : f.totalSize = g.totalSize
  wastedSize : f.wastedSize = g.wastedSize
  similarity : Decimal.shortestText? f.similarity = Decimal.shortestText? g.similarity

theorem Foldability.toJson_eq_iff {f g : Foldability} : f.toJson = g.toJson ↔ f.Alike g := by
  have hname (x y : TemplatedFunction) : text x.name = text y.name ↔ x.name = y.name := text_inj
  simp [Foldability.toJson, list_eq_iff_map fun _ _ => TemplatedFunction.toJson_eq_iff,
    list_eq_iff_map hname, Foldability.alike_iff]

structure DuplicateData.DiffsAlike (d e : Diff DuplicateData) : Prop where
  sides : d.Alike DuplicateData.Alike e
  virtualSizeDiff : d.virtualSizeDiff = e.virtualSizeDiff

theorem DuplicateData.diffToJson_eq_iff {d e : Diff DuplicateData}
    : diffToJson d = diffToJson e ↔ DiffsAlike d e := by
  have hnull (x : DuplicateData) : x.toJson ≠ .null := record_ne_null _
  have hsides := Diff.sides_eq_iff (d := d) (e := e) hnull fun _ _ => DuplicateData.toJson_eq_iff
  constructor
  . intro h
    simp [diffToJson] at h
    exact ⟨hsides.1 h.2.2.2.2.2, h.2.2.1⟩
  . rintro ⟨halike, hvirtual⟩
    have hname : d.name = e.name :=
      by
      apply halike.map_either
      intro a b h
      have hname := congrArg StaticData.name h.symbol
      exact hname
    have hsize : d.sizeDiff = e.sizeDiff := halike.deltaBy_eq fun _ _ h => h.totalSize
    have hwasted : d.wastedSizeDiff = e.wastedSizeDiff :=
      halike.deltaBy_eq fun _ _ h => h.wastedSize
    have hremaining : d.wastedSizeRemaining = e.wastedSizeRemaining :=
      halike.elim_after? fun _ _ h => h.wastedSize
    simp [diffToJson, hname, hsize, hvirtual, hwasted, hremaining, hsides.2 halike]

theorem Foldability.diffToJson_eq_iff {d e : Diff Foldability}
    : diffToJson d = diffToJson e ↔ d.Alike Foldability.Alike e := by
  have hnull (x : Foldability) : x.toJson ≠ .null := record_ne_null _
  have hsides := Diff.sides_eq_iff (d := d) (e := e) hnull fun _ _ => Foldability.toJson_eq_iff
  constructor
  . intro h
    simp [diffToJson] at h
    exact hsides.1 h.2.2.2.2
  . intro halike
    have hname : d.name = e.name := halike.map_either fun _ _ h => h.templateName
    have hsize : d.sizeDiff = e.sizeDiff := halike.deltaBy_eq fun _ _ h => h.totalSize
    have hwasted : d.wastedSizeDiff = e.wastedSizeDiff :=
      halike.deltaBy_eq fun _ _ h => h.wastedSize
    have hremaining : d.wastedSizeRemaining = e.wastedSizeRemaining :=
      halike.elim_after? fun _ _ h => h.wastedSize
    simp [diffToJson, hname, hsize, hwasted, hremaining, hsides.2 halike]

@[mk_iff]
structure Analysis.Alike (a b : Analysis) : Prop where
  others : { a with duplicateData := [], foldability := [] }
    = { b with duplicateData := [], foldability := [] }
  duplicateData : List.Forall₂ DuplicateData.Alike a.duplicateData b.duplicateData
  foldability : List.Forall₂ Foldability.Alike a.foldability b.foldability

theorem Analysis.toJson_eq_iff {a b : Analysis} : a.toJson = b.toJson ↔ a.Alike b := by
  rw [Analysis.alike_iff]
  cases a
  cases b
  simp [Analysis.toJson, list_inj BinarySection.toJson_injective, list_inj Lib.toJson_injective,
    list_inj Compiland.toJson_injective, list_inj SourceFile.toJson_injective,
    list_inj Symbol.toJson_injective, list_inj WastefulVirtual.toJson_injective,
    list_eq_iff fun _ _ => DuplicateData.toJson_eq_iff,
    list_eq_iff fun _ _ => Foldability.toJson_eq_iff]
  tauto

@[mk_iff]
structure Comparison.Alike (c d : Comparison) : Prop where
  others : { c with duplicateData := [], foldability := [] }
    = { d with duplicateData := [], foldability := [] }
  duplicateData : List.Forall₂ DuplicateData.DiffsAlike c.duplicateData d.duplicateData
  foldability : List.Forall₂ (Diff.Alike Foldability.Alike) c.foldability d.foldability

theorem Comparison.toJson_eq_iff {c d : Comparison} : c.toJson = d.toJson ↔ c.Alike d := by
  rw [Comparison.alike_iff]
  cases c
  cases d
  simp [Comparison.toJson, list_inj SectionDiff.toJson_injective,
    list_inj (ContainerDiff.toJson_injective Lib.toJson_injective fun _ => record_ne_null _),
    list_inj (ContainerDiff.toJson_injective Compiland.toJson_injective fun _ => record_ne_null _),
    list_inj (ContainerDiff.toJson_injective SourceFile.toJson_injective fun _ => record_ne_null _),
    list_inj (Diff.toJson_injective Symbol.toJson_injective fun _ => record_ne_null _),
    list_inj WastefulVirtualDiff.toJson_injective,
    list_eq_iff fun _ _ => DuplicateData.diffToJson_eq_iff,
    list_eq_iff fun _ _ => Foldability.diffToJson_eq_iff]
  tauto

/-- Whether reports have the same totals and differ at most where items are written alike. -/
inductive Report.Alike : Report → Report → Prop where
  | single {a b : Analysis} {totals : SingleTotals} (analysis : a.Alike b)
    : Alike (.single a totals) (.single b totals)
  | diff {c d : Comparison} {totals : DiffTotals} (comparison : c.Alike d)
    : Alike (.diff c totals) (.diff d totals)

theorem Report.toJson_eq_iff {r s : Report} : r.toJson = s.toJson ↔ r.Alike s := by
  constructor
  . intro h
    cases r with
    | single a totals =>
      cases s with
      | single b others =>
        simp [Report.toJson] at h
        cases SingleTotals.toJson_injective h.2.1
        exact .single (Analysis.toJson_eq_iff.1 h.2.2)
      -- The mode is written first and tells the two kinds of report apart.
      | diff d others => simp [Report.toJson] at h
    | diff c totals =>
      cases s with
      | single b others => simp [Report.toJson] at h
      | diff d others =>
        simp [Report.toJson] at h
        cases DiffTotals.toJson_injective h.2.1
        exact .diff (Comparison.toJson_eq_iff.1 h.2.2)
  . intro h
    cases h with
    | @single a b totals halike =>
      have hbinary : a.binary = b.binary := (congrArg Analysis.binary halike.others :)
      simp [Report.toJson, Report.binary, Analysis.toJson_eq_iff.2 halike, hbinary]
    | @diff c d totals halike =>
      have hbefore : c.beforeBinary = d.beforeBinary :=
        (congrArg Comparison.beforeBinary halike.others :)
      have hafter : c.afterBinary = d.afterBinary :=
        (congrArg Comparison.afterBinary halike.others :)
      simp [Report.toJson, Report.binary, Comparison.toJson_eq_iff.2 halike, hbefore, hafter]

end Lossy

end Footprint
