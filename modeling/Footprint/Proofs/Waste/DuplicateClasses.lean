import Footprint.Proofs.Text.ByteOrder
import Footprint.Proofs.Waste.DuplicateData
import Mathlib.Data.Prod.Lex

namespace Footprint
namespace DuplicateData

variable {s : Snapshot} {c : Copies} {item : DuplicateData} {items : List DuplicateData}

def likeness (d : StaticData) : String × Nat × Nat × List UInt8 :=
  (d.name, d.size, d.virtualSize, d.bytes)

def carriers (first : StaticData) (rest : List StaticData) : List String :=
  firstSeen (first.compiland :: (rest.filter (·.rva ≠ first.rva)).map (·.compiland))

def ofCarriers (first : StaticData) (carriers : List String) : DuplicateData where
  symbol := first
  referencedIn := carriers.mergeSort fun x y => utf8 x ≤ utf8 y
  totalSize := first.size * carriers.length
  totalVirtualSize := first.virtualSize * carriers.length
  wastedSize := first.size * (carriers.length - 1)

def ofClass? : List StaticData → Option DuplicateData
  | [] => none
  | first :: rest =>
    if (∃ d ∈ rest, d.rva ≠ first.rva) ∧ 1 < (carriers first rest).length then
      some (ofCarriers first (carriers first rest))
    else none

/--
The place of the items of a piece of data: first comes what has its name and its sizes first, and
then what has a piece at another address first.
-/
def place (s : Snapshot) (first : StaticData) : ℕ ×ₗ ℕ :=
  toLex (s.staticData.findIdx (nameAndSizes · = nameAndSizes first),
    s.staticData.findIdx fun d => likeness d = likeness first ∧ d.rva ≠ first.rva)

def ofSnapshot (s : Snapshot) : List DuplicateData :=
  ((classes likeness (roomTaking s)).filterMap fun (_, data) => ofClass? data).mergeSort fun x y =>
    place s x.symbol ≤ place s y.symbol

section Items

theorem mergeSort_utf8 (names : List String)
    : names.mergeSort (fun x y => utf8 x ≤ utf8 y) = names.mergeSort := by
  simp only [utf8_le_utf8_iff]

theorem finish_eq_ofCarriers (c : Copies)
    : c.finish
        = if c.symbol.size * c.referencedIn.length < wordLimit
            ∧ c.symbol.virtualSize * c.referencedIn.length < wordLimit then
          .ok (ofCarriers c.symbol c.referencedIn)
        else .error (.sanity (.copiesOverflow c.referencedIn.length c.symbol.name)) := by
  unfold ofCarriers
  rw [finish_eq, mergeSort_utf8]

theorem ofCarriers_of_finish (h : c.finish = .ok item)
    : item = ofCarriers c.symbol c.referencedIn := by
  rw [finish_eq_ofCarriers] at h
  split_ifs at h
  cases h
  rfl

theorem inClass_of_eq_ok {data : List StaticData} (h : inClass data = .ok items)
    : items = ((data.foldl Candidates.take .empty).copied.map fun c =>
        ofCarriers c.symbol c.referencedIn).filter (1 < ·.referencedIn.length) := by
  unfold inClass at h
  have ⟨finished, hfinished, hitems⟩ := Except.bind_eq_ok.1 h
  rw [← Except.eq_map_of_mapM_eq_ok (fun _ _ => ofCarriers_of_finish) hfinished]
  cases hitems
  rfl

theorem items_of_find (h : (find s).result = .ok items)
    : items = ((built s).map fun c => ofCarriers c.symbol c.referencedIn).filter
        (1 < ·.referencedIn.length) := by
  rw [result_find] at h
  cases hmap : (dataClasses s).mapM inClass with
  | error e =>
    rw [hmap] at h
    cases h
  | ok groups =>
    rw [hmap] at h
    cases h
    rw [Except.eq_map_of_mapM_eq_ok (fun _ _ => inClass_of_eq_ok) hmap]
    unfold built
    rw [List.map_flatMap, List.filter_flatMap, List.flatMap_def]

theorem result_find_of_finish (h : (built s).mapM Copies.finish = .ok items)
    : (find s).result = .ok (items.filter (1 < ·.referencedIn.length)) := by
  have ⟨found, hfound⟩ := exists_find.2 (Except.exists_mapM_eq_ok.1 ⟨items, h⟩)
  rw [hfound, items_of_find hfound, Except.eq_map_of_mapM_eq_ok (fun _ _ => ofCarriers_of_finish) h]

theorem length_referencedIn_ofCarriers (first : StaticData) (carriers : List String)
    : (ofCarriers first carriers).referencedIn.length = carriers.length := by
  unfold ofCarriers
  rw [List.length_mergeSort]

theorem mem_items_of_find (h : (find s).result = .ok items)
    : item ∈ items
        ↔ ∃ c, Among c s ∧ 1 < c.referencedIn.length
          ∧ ofCarriers c.symbol c.referencedIn = item := by
  rw [items_of_find h, List.mem_filter, List.mem_map]
  simp only [decide_eq_true_eq, mem_built]
  constructor
  . rintro ⟨⟨c, hc, rfl⟩, hlength⟩
    rw [length_referencedIn_ofCarriers] at hlength
    exact ⟨c, hc, hlength, rfl⟩
  . rintro ⟨c, hc, hlength, rfl⟩
    rw [length_referencedIn_ofCarriers]
    exact ⟨⟨c, hc, rfl⟩, hlength⟩

end Items

section Classes

variable {first : StaticData} {data : List StaticData}

theorem filter_likeness (hroom : first.size ≠ 0 ∨ first.virtualSize ≠ 0)
    : (roomTaking s).filter (likeness · = likeness first)
        = s.staticData.filter (areAlike first) := by
  unfold roomTaking
  rw [List.filter_filter]
  apply List.filter_congr
  intro d _
  unfold areAlike likeness
  grind

theorem ofClass?_eq_some_iff
    : ofClass? data = some item
        ↔ ∃ first rest, data = first :: rest ∧ (∃ d ∈ rest, d.rva ≠ first.rva)
          ∧ 1 < (carriers first rest).length
          ∧ ofCarriers first (carriers first rest) = item := by
  cases data with
  | nil => simp [ofClass?]
  | cons first rest =>
    unfold ofClass?
    rw [Option.ite_none_right_eq_some, Option.some_inj, and_assoc]
    constructor
    . intro h
      exact ⟨first, rest, rfl, h⟩
    . rintro ⟨_, _, heq, h⟩
      cases heq
      exact h

theorem mem_classes_roomTaking {k : String × Nat × Nat × List UInt8}
    : (k, data) ∈ classes likeness (roomTaking s)
        ↔ ∃ d ∈ roomTaking s, likeness d = k ∧ data = (roomTaking s).filter (likeness · = k) := by
  unfold classes
  simp only [List.mem_map, mem_firstSeen, Prod.mk.injEq]
  constructor
  . rintro ⟨_, ⟨d, hd, rfl⟩, rfl, rfl⟩
    exact ⟨d, hd, rfl, rfl⟩
  . rintro ⟨d, hd, rfl, rfl⟩
    exact ⟨_, ⟨d, hd, rfl⟩, rfl, rfl⟩

theorem mem_ofSnapshot
    : item ∈ ofSnapshot s
        ↔ ∃ c, Among c s ∧ 1 < c.referencedIn.length
          ∧ ofCarriers c.symbol c.referencedIn = item := by
  unfold ofSnapshot
  rw [List.mem_mergeSort, List.mem_filterMap]
  constructor
  . rintro ⟨⟨k, data⟩, hclass, hitem⟩
    obtain ⟨d, hd, rfl, rfl⟩ := mem_classes_roomTaking.1 hclass
    have ⟨first, rest, hdata, hsome, hlength, hitem⟩ := ofClass?_eq_some_iff.1 hitem
    have ⟨hmem, hlike⟩ := of_filter_eq_cons hdata
    have hroom := (mem_roomTaking.1 hmem).2
    rw [← of_decide_eq_true hlike, filter_likeness hroom] at hdata
    exact ⟨.gathered first rest, ⟨hroom, rest, hdata, hsome, rfl⟩, hlength, hitem⟩
  . rintro ⟨c, ⟨hroom, rest, hfilter, hsome, hgathered⟩, hlength, hitem⟩
    have hmem : c.symbol ∈ roomTaking s :=
      mem_roomTaking.2 ⟨(of_filter_eq_cons hfilter).1, hroom⟩
    have hcarriers : c.referencedIn = carriers c.symbol rest := by
      rw [hgathered]
      rfl
    rw [hcarriers] at hlength hitem
    refine ⟨(likeness c.symbol, c.symbol :: rest), ?_, ?_⟩
    . rw [mem_classes_roomTaking, filter_likeness hroom]
      exact ⟨c.symbol, hmem, rfl, hfilter.symm⟩
    . exact ofClass?_eq_some_iff.2 ⟨c.symbol, rest, rfl, hsome, hlength, hitem⟩

theorem likeness_of_ofClass? {k : String × Nat × Nat × List UInt8}
    (hclass : (k, data) ∈ classes likeness (roomTaking s)) (hitem : ofClass? data = some item)
    : likeness item.symbol = k := by
  obtain ⟨d, hd, rfl, rfl⟩ := mem_classes_roomTaking.1 hclass
  obtain ⟨first, rest, hdata, _, _, rfl⟩ := ofClass?_eq_some_iff.1 hitem
  exact of_decide_eq_true (of_filter_eq_cons hdata).2

theorem pairwise_likeness_ofSnapshot (s : Snapshot)
    : (ofSnapshot s).Pairwise fun x y => likeness x.symbol ≠ likeness y.symbol := by
  have hkeys : (classes likeness (roomTaking s)).Pairwise fun x y => x.1 ≠ y.1 := by
    unfold classes
    rw [List.pairwise_map]
    exact nodup_firstSeen _
  -- Every class comes to one item at most, and the classes have distinct keys.
  unfold ofSnapshot
  rw [(List.mergeSort_perm _ _).pairwise_iff fun h => h.symm, List.pairwise_filterMap]
  apply hkeys.imp_of_mem
  rintro ⟨j, _⟩ ⟨k, _⟩ hj hk hne x hx y hy
  rw [likeness_of_ofClass? hj hx, likeness_of_ofClass? hk hy]
  exact hne

end Classes

section Places

variable {first : StaticData} {k : String × Nat × Nat}

theorem nameAndSizes_of_likeness {d e : StaticData} (h : likeness d = likeness e)
    : nameAndSizes d = nameAndSizes e := by
  unfold likeness at h
  unfold nameAndSizes
  simp only [Prod.mk.injEq] at h ⊢
  exact ⟨h.1, h.2.1, h.2.2.1⟩

theorem symbol_mem_group (h : c ∈ ((group s k).foldl Candidates.take .empty).copied)
    : c.symbol ∈ group s k := by
  have ⟨rest, hfilter, _⟩ := Candidates.mem_copied_foldl_take.1 h
  exact (of_filter_eq_cons hfilter).1

theorem takesRoom_of_nameAndSizes {d e : StaticData} (he : e ∈ roomTaking s)
    (h : nameAndSizes d = nameAndSizes e)
    : (d.size ≠ 0 || d.virtualSize ≠ 0) = true := by
  have hroom := (mem_roomTaking.1 he).2
  unfold nameAndSizes at h
  simp only [Prod.mk.injEq] at h
  rw [h.2.1, h.2.2]
  simpa using hroom

theorem opening_group (hfirst : first ∈ group s k)
    : Candidates.opening (group s k) first
        = (group s k).findIdx fun d => likeness d = likeness first ∧ d.rva ≠ first.rva := by
  apply findIdx_congr
  intro d hd
  have hk := (mem_group.1 hd).2.trans (mem_group.1 hfirst).2.symm
  unfold nameAndSizes at hk
  simp only [Prod.mk.injEq] at hk
  rw [Bool.eq_iff_iff, areCopies_iff, decide_eq_true_iff]
  unfold likeness
  simp only [Prod.mk.injEq, hk, true_and]
  rw [and_comm, eq_comm, ne_comm]

theorem findIdx_of_opening_group_lt {x y : StaticData} (hx : x ∈ group s k) (hy : y ∈ group s k)
    (h : Candidates.opening (group s k) x < Candidates.opening (group s k) y)
    : (s.staticData.findIdx fun d => likeness d = likeness x ∧ d.rva ≠ x.rva)
        < s.staticData.findIdx fun d => likeness d = likeness y ∧ d.rva ≠ y.rva := by
  have hgroup : ∀ z ∈ group s k, ∀ d ∈ s.staticData,
      decide (likeness d = likeness z ∧ d.rva ≠ z.rva) = true
        → (decide (nameAndSizes d = k) && (d.size ≠ 0 || d.virtualSize ≠ 0)) = true := by
    intro z hz d _ hd
    have hk := nameAndSizes_of_likeness (of_decide_eq_true hd).1
    have ⟨hroom, hkz⟩ := mem_group.1 hz
    rw [Bool.and_eq_true, decide_eq_true_iff]
    exact ⟨hk.trans hkz, takesRoom_of_nameAndSizes hroom hk⟩
  rw [opening_group hx, opening_group hy] at h
  unfold group roomTaking at h
  rw [List.filter_filter] at h
  exact findIdx_lt_of_findIdx_filter_lt (hgroup x hx) (hgroup y hy) h

theorem pairwise_place_group (s : Snapshot) (k : String × Nat × Nat)
    : ((group s k).foldl Candidates.take .empty).copied.Pairwise fun x y =>
        place s x.symbol < place s y.symbol := by
  have hopening := Candidates.pairwise_opening (group s k)
  unfold Candidates.opened at hopening
  rw [List.pairwise_map] at hopening
  apply hopening.imp_of_mem
  intro x y hx hy hlt
  have hx := symbol_mem_group hx
  have hy := symbol_mem_group hy
  unfold place
  rw [Prod.Lex.toLex_lt_toLex, (mem_group.1 hx).2, (mem_group.1 hy).2]
  exact .inr ⟨rfl, findIdx_of_opening_group_lt hx hy hlt⟩

theorem pairwise_place_built (s : Snapshot)
    : (built s).Pairwise fun x y => place s x.symbol < place s y.symbol := by
  have hroom : ∀ k ∈ firstSeen ((roomTaking s).map nameAndSizes), ∀ d ∈ s.staticData,
      decide (nameAndSizes d = k) = true → (d.size ≠ 0 || d.virtualSize ≠ 0) = true := by
    intro k hk d _ hd
    obtain ⟨e, he, rfl⟩ := List.mem_map.1 (mem_firstSeen.1 hk)
    exact takesRoom_of_nameAndSizes he (of_decide_eq_true hd)
  rw [built_eq, List.pairwise_flatMap]
  refine ⟨fun k _ => pairwise_place_group s k, ?_⟩
  apply (pairwise_findIdx_firstSeen nameAndSizes (roomTaking s)).imp_of_mem
  intro j k hj hk hlt x hx y hy
  unfold place
  rw [Prod.Lex.toLex_lt_toLex, (mem_group.1 (symbol_mem_group hx)).2,
    (mem_group.1 (symbol_mem_group hy)).2]
  exact .inl (findIdx_lt_of_findIdx_filter_lt (hroom j hj) (hroom k hk) hlt)

theorem pairwise_place_items (h : (find s).result = .ok items)
    : items.Pairwise fun x y => place s x.symbol < place s y.symbol := by
  rw [items_of_find h]
  apply List.Pairwise.filter
  rw [List.pairwise_map]
  exact pairwise_place_built s

theorem sorted_ofSnapshot (s : Snapshot)
    : (ofSnapshot s).Pairwise fun x y => place s x.symbol ≤ place s y.symbol := by
  unfold ofSnapshot
  apply (List.pairwise_mergeSort _ _ _).imp of_decide_eq_true
  . intro x y z hxy hyz
    exact decide_eq_true ((of_decide_eq_true hxy).trans (of_decide_eq_true hyz))
  . intro x y
    rw [Bool.or_eq_true, decide_eq_true_iff, decide_eq_true_iff]
    exact le_total _ _

theorem perm_ofSnapshot (h : (find s).result = .ok items) : items.Perm (ofSnapshot s) := by
  rw [List.perm_ext_iff_of_nodup]
  . intro item
    rw [mem_items_of_find h, mem_ofSnapshot]
  . apply (pairwise_place_items h).imp
    rintro x _ hlt rfl
    exact lt_irrefl _ hlt
  . apply (pairwise_likeness_ofSnapshot s).imp
    rintro x _ hne rfl
    exact hne rfl

end Places

theorem find_eq_ofSnapshot {m : Monitor} (h : ((find s).run m).1 = .ok items)
    : items = ofSnapshot s ∧ (items.map (likeness ·.symbol)).Nodup := by
  have h := Pass.result_of_run_eq_ok h
  have hplaces := pairwise_place_items h
  have heq : items = ofSnapshot s := by
    apply List.Perm.eq_of_pairwise _ (hplaces.imp le_of_lt) (sorted_ofSnapshot s)
      (perm_ofSnapshot h)
    intro x y hx hy hxy hyx
    have hnodup : (items.map (place s ·.symbol)).Nodup := by
      unfold List.Nodup
      rw [List.pairwise_map]
      exact hplaces.imp ne_of_lt
    have hy := (perm_ofSnapshot h).mem_iff.2 hy
    exact List.inj_on_of_nodup_map hnodup hx hy (le_antisymm hxy hyx)
  refine ⟨heq, ?_⟩
  rw [heq]
  unfold List.Nodup
  rw [List.pairwise_map]
  exact pairwise_likeness_ofSnapshot s

def interleaved : Snapshot where
  staticData := [
    { name := "u", size := 4, rva := 1, bytes := [9], compiland := "m.obj" },
    { name := "t", size := 8, rva := 10, bytes := [1], compiland := "z.obj" },
    { name := "t", size := 8, rva := 11, bytes := [2], compiland := "a.obj" },
    { name := "t", size := 8, rva := 10, bytes := [1], compiland := "w.obj" },
    { name := "t", size := 8, rva := 12, bytes := [2], compiland := "é.obj" },
    { name := "t", size := 8, rva := 13, bytes := [1], compiland := "é.obj" },
    { name := "t", size := 8, rva := 14, bytes := [1], compiland := "b.obj" },
    { name := "u", size := 4, rva := 2, bytes := [9], compiland := "n.obj" }]

theorem find_eq_ofSnapshot_interleaved
    : ∃ items, ((find interleaved).run (.start none)).1 = .ok items
        ∧ items.map (fun d => (d.symbol.rva, d.referencedIn, d.totalSize, d.wastedSize)) = [
          (1, ["m.obj", "n.obj"], 8, 4), (11, ["a.obj", "é.obj"], 16, 8),
          (10, ["b.obj", "z.obj", "é.obj"], 24, 16)] := by
  have hfind : ∃ items, ((find interleaved).run (.start none)).1 = .ok items := ⟨_, rfl⟩
  obtain ⟨items, hitems⟩ := hfind
  refine ⟨items, hitems, ?_⟩
  rw [(find_eq_ofSnapshot hitems).1]
  simp [ofSnapshot, ofClass?, ofCarriers, carriers, place, roomTaking, interleaved, classes,
    likeness, nameAndSizes, firstSeen, mergeSort_utf8, List.mergeSort, List.findIdx_cons,
    Prod.Lex.toLex_le_toLex]

end DuplicateData
end Footprint
