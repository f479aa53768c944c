import Footprint.Proofs.Completion
import Footprint.Proofs.Waste.CodeRanges
import Footprint.Proofs.Waste.Templates

namespace Footprint
namespace Foldability

variable {s : Snapshot} {similarity : Similarity} {found : Findings} {item : Foldability}
  {f : TemplatedFunction} {name : String}

def instantiations (s : Snapshot) (name : String) : List TemplatedFunction :=
  s.templatedFunctions.filter (Name.genericFunction · = name)

def firstPlace (s : Snapshot) (name : String) : Nat :=
  s.templatedFunctions.findIdx (Name.genericFunction · = name)

structure AreTemplatesOf (s : Snapshot) (items : List Foldability) : Prop where
  named : ∀ name, name ∈ items.map (·.templateName) ↔ 2 ≤ (instantiations s name).length
  distinct : (items.map (·.templateName)).Nodup
  inOrder : items.Pairwise fun x y => firstPlace s x.templateName < firstPlace s y.templateName
  symbols : ∀ item ∈ items, item.symbols = instantiations s item.templateName
  once : ∀ f ∈ s.templatedFunctions, (items.filter (f ∈ ·.symbols)).length
    = if 2 ≤ (instantiations s (Name.genericFunction f)).length then 1 else 0

structure CountsCode (item : Foldability) : Prop where
  selection : ∃ chosen, IsSelection item.symbols item.uniqueSymbols chosen
  totalSize : item.totalSize = (item.uniqueSymbols.map (·.size)).sum
  withinLimit : (item.uniqueSymbols.map (·.size)).sum < wordLimit

section Templates

theorem mem_instantiations
    : f ∈ instantiations s name ↔ f ∈ s.templatedFunctions ∧ Name.genericFunction f = name := by
  unfold instantiations
  rw [List.mem_filter, decide_eq_true_iff]

theorem instantiations_ne_nil_iff
    : instantiations s name ≠ [] ↔ name ∈ firstSeen (s.templatedFunctions.map Name.genericFunction)
    := by
  rw [mem_firstSeen, List.mem_map]
  simp only [← mem_instantiations]
  constructor
  . exact List.exists_mem_of_ne_nil _
  . intro ⟨f, hf⟩
    exact List.ne_nil_of_mem hf

theorem map_templateName_find (h : (find similarity s).result = .ok found)
    : found.items.map (·.templateName)
        = (firstSeen (s.templatedFunctions.map Name.genericFunction)).filter
          fun name => 2 ≤ (instantiations s name).length := by
  have hnames : found.items.map (·.templateName)
      = (found.items.map template).map Prod.fst := by
    rw [List.map_map]
    rfl
  rw [hnames, map_template_find h, templates_eq]
  unfold classes
  rw [List.filter_map, List.map_map]
  simp only [Function.comp_def, List.map_id']
  apply List.filter_congr
  intro name hname
  have hpos := List.length_pos_iff.2 (instantiations_ne_nil_iff.2 hname)
  unfold instantiations at hpos ⊢
  rw [decide_eq_decide]
  omega

theorem mem_templateNames_iff (h : (find similarity s).result = .ok found)
    : name ∈ found.items.map (·.templateName) ↔ 2 ≤ (instantiations s name).length := by
  rw [map_templateName_find h, List.mem_filter, decide_eq_true_iff, ← instantiations_ne_nil_iff,
    and_iff_right_iff_imp]
  intro hseveral
  apply List.ne_nil_of_length_pos
  omega

theorem symbols_of_mem_find (h : (find similarity s).result = .ok found)
    (hitem : item ∈ found.items)
    : item.symbols = instantiations s item.templateName := by
  exact functions_of_mem_templates (template_mem_templates h hitem)

theorem pairwise_firstPlace (h : (find similarity s).result = .ok found)
    : found.items.Pairwise fun x y =>
        firstPlace s x.templateName < firstPlace s y.templateName := by
  rw [← List.pairwise_map (f := fun item : Foldability => item.templateName)
    (R := fun x y => firstPlace s x < firstPlace s y), map_templateName_find h]
  apply List.Pairwise.filter
  exact pairwise_findIdx_firstSeen Name.genericFunction s.templatedFunctions

theorem length_filter_mem_symbols (h : (find similarity s).result = .ok found)
    (hf : f ∈ s.templatedFunctions)
    : (found.items.filter (f ∈ ·.symbols)).length
        = if 2 ≤ (instantiations s (Name.genericFunction f)).length then 1 else 0 := by
  have hmem : ∀ item ∈ found.items, f ∈ item.symbols
      ↔ item.templateName = Name.genericFunction f := by
    intro item hitem
    rw [symbols_of_mem_find h hitem, mem_instantiations, and_iff_right hf, eq_comm]
  have hnodup : (found.items.map (·.templateName)).Nodup := by
    rw [map_templateName_find h]
    exact (nodup_firstSeen _).filter _
  have hcount : (found.items.filter (f ∈ ·.symbols)).length
      = (found.items.map (·.templateName)).count (Name.genericFunction f) := by
    rw [List.count_eq_countP, List.countP_map, ← List.countP_eq_length_filter]
    apply List.countP_congr
    intro item hitem
    rw [decide_eq_true_iff, hmem item hitem, Function.comp_apply, beq_iff_eq]
  rw [hcount, hnodup.count]
  simp only [mem_templateNames_iff h]

theorem areTemplatesOf_find (h : (find similarity s).result = .ok found)
    : AreTemplatesOf s found.items where
  named _ := mem_templateNames_iff h
  distinct := by
    rw [map_templateName_find h]
    exact (nodup_firstSeen _).filter _
  inOrder := pairwise_firstPlace h
  symbols _ hitem := symbols_of_mem_find h hitem
  once _ hf := length_filter_mem_symbols h hf

end Templates

section Code

theorem uniqueAmong_of_mem_find (h : (find similarity s).result = .ok found)
    : ∀ item ∈ found.items, item.uniqueSymbols = uniqueAmong item.symbols
      ∧ codeSize item.symbols item.uniqueSymbols = .ok item.totalSize := by
  rw [result_find] at h
  apply of_foldlM_take_eq_ok _ _ h
  . intro found hfound group size hsize item hitem
    rw [List.mem_append, List.mem_singleton] at hitem
    cases hitem with
    | inl hitem => exact hfound item hitem
    | inr hitem =>
      rw [hitem]
      exact ⟨rfl, hsize⟩
  . intro item hitem
    cases hitem

theorem countsCode_of_mem_find (h : (find similarity s).result = .ok found)
    (hends : ∀ f ∈ s.templatedFunctions, f.rva + f.size < wordLimit) (hitem : item ∈ found.items)
    : CountsCode item := by
  have ⟨hunique, hsize⟩ := uniqueAmong_of_mem_find h item hitem
  have hends' : ∀ f ∈ item.symbols, f.rva + f.size < wordLimit := by
    intro f hf
    rw [symbols_of_mem_find h hitem, mem_instantiations] at hf
    exact hends f hf.1
  rw [hunique, codeSize_eq_ok_iff (end_lt_of_mem_uniqueAmong hends'), ← hunique] at hsize
  refine ⟨?_, hsize.2.symm, hsize.1⟩
  rw [hunique]
  exact exists_isSelection hends'

end Code

theorem templates_found_exactly (similarity : Similarity) (hs : s.check = .ok ()) {m : Monitor}
    (hnever : ((find similarity s).run m).2.canceled = false)
    : ∃ found, ((find similarity s).run m).1 = .ok found
      ∧ AreTemplatesOf s found.items
      ∧ ∀ item ∈ found.items, CountsCode item := by
  have ⟨found, hfound⟩ := exists_find similarity fun _ hgroup =>
    Snapshot.exists_codeSize_of_mem_templates hs hgroup
  have ⟨_, _, _, _, _, hends⟩ := Snapshot.check_eq_ok.1 hs
  rw [Pass.run_of_not_canceled hnever]
  refine ⟨found, hfound, areTemplatesOf_find hfound, ?_⟩
  intro item hitem
  exact countsCode_of_mem_find hfound hends hitem

def visits : Snapshot where
  templatedFunctions := [
    codeAt "Visit<int>" 16 8,
    codeAt "Draw<int>" 48 4,
    codeAt "Visit<bool>" 20 2,
    { codeAt "Visit<char>" 64 4 with isFolded := true },
    codeAt "Visit<long>" 32 6]

theorem templates_found_exactly_visits
    : ∃ found, ((find byteSimilarity visits).run (.start none)).1 = .ok found
        ∧ AreTemplatesOf visits found.items
        ∧ (∀ item ∈ found.items, CountsCode item)
        ∧ found.items.map (fun item => (item.templateName, item.symbols.map (·.name)))
          = [("Visit<T1>()", ["Visit<int>", "Visit<bool>", "Visit<char>", "Visit<long>"])]
        ∧ found.items.map (fun item => (item.uniqueSymbols.map (·.name), item.totalSize))
          = [(["Visit<int>", "Visit<long>"], 14)] := by
  have hcheck : visits.check = .ok () := rfl
  have ⟨found, hfound, htemplates, hcode⟩ :=
    templates_found_exactly byteSimilarity hcheck (Pass.not_canceled_of_start_none _)
  refine ⟨found, hfound, htemplates, hcode, ?_⟩
  rw [Pass.run_start_none] at hfound
  have hitems : found.items.map template
      = [("Visit<T1>()", instantiations visits "Visit<T1>()")] := by
    rw [map_template_find hfound]
    rfl
  have ⟨item, hitem, htemplate⟩ := List.map_eq_singleton_iff.1 hitems
  have ⟨hname, hsymbols⟩ := Prod.mk.inj htemplate
  have hmem : item ∈ found.items := by simp [hitem]
  have hunique := (uniqueAmong_of_mem_find hfound item hmem).1
  have htotal := (hcode item hmem).totalSize
  rw [hsymbols] at hunique
  rw [hunique] at htotal
  rw [hitem, List.map_singleton, List.map_singleton, hname, hsymbols, htotal, hunique]
  constructor
  . rfl
  . rfl

end Foldability
end Footprint
