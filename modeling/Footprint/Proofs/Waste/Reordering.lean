import Footprint.Proofs.Waste.DuplicateClasses
import Footprint.Snapshot.Check
import Mathlib.Data.List.Sort

/-!
This module contains how the duplicate data that is found depends on the order in which the data is
listed. The first piece of a class counts for its own compiland alone at its address, so a compiland
that shares this address with it and has no other piece goes uncounted. Two orders come to the same
items exactly if the same pieces go uncounted in them.
-/

namespace Footprint

section Tagged

variable {κ β : Type} {f g : κ → Option β} {tag : β → κ} {ks : List κ}

theorem eq_some_of_perm_filterMap (hf : ∀ k x, f k = some x → tag x = k)
    (hg : ∀ k x, g k = some x → tag x = k) (h : (ks.filterMap f).Perm (ks.filterMap g)) {k : κ}
    (hk : k ∈ ks) {x : β} (hx : f k = some x)
    : g k = some x := by
  have hmem : x ∈ ks.filterMap g := h.subset (List.mem_filterMap.2 ⟨k, hk, hx⟩)
  obtain ⟨j, _, hj⟩ := List.mem_filterMap.1 hmem
  rw [← hf k x hx, hg j x hj]
  exact hj

theorem perm_filterMap_iff (hf : ∀ k x, f k = some x → tag x = k)
    (hg : ∀ k x, g k = some x → tag x = k)
    : (ks.filterMap f).Perm (ks.filterMap g) ↔ ∀ k ∈ ks, f k = g k := by
  constructor
  . intro h k hk
    apply Option.ext
    intro x
    exact ⟨eq_some_of_perm_filterMap hf hg h hk, eq_some_of_perm_filterMap hg hf h.symm hk⟩
  . intro h
    rw [List.filterMap_congr h]

end Tagged

namespace DuplicateData

variable {s t : Snapshot} {items others : List DuplicateData} {d e f g : StaticData}
  {data xs ys rest : List StaticData} {compiland : String}

abbrev Likeness := String × Nat × Nat × List UInt8

variable {k : Likeness}

def contents (d : DuplicateData) : Likeness × List String × Nat × Nat :=
  (likeness d.symbol, d.referencedIn, d.totalSize, d.wastedSize)

def classOf (s : Snapshot) (k : Likeness) : List StaticData :=
  (roomTaking s).filter (likeness · = k)

/--
Whether a piece of a class at several addresses is at the address of a piece of another compiland,
and its own compiland has no piece of the class at another address.
-/
structure Folded (data : List StaticData) (into piece : StaticData) : Prop where
  sameAddress : into.rva = piece.rva
  otherCompiland : into.compiland ≠ piece.compiland
  nowhereElse : ∀ d ∈ data, d.compiland = piece.compiland → d.rva = piece.rva
  scattered : ∃ d ∈ data, d.rva ≠ piece.rva

def Hidden (data : List StaticData) (piece : StaticData) : Prop :=
  ∃ first, data.head? = some first ∧ Folded data first piece

def Uncounted (s : Snapshot) (piece : StaticData) : Prop :=
  Hidden (classOf s (likeness piece)) piece

instance (data : List StaticData) (into piece : StaticData) : Decidable (Folded data into piece) :=
  decidable_of_iff
    (into.rva = piece.rva ∧ into.compiland ≠ piece.compiland
      ∧ (∀ d ∈ data, d.compiland = piece.compiland → d.rva = piece.rva)
      ∧ ∃ d ∈ data, d.rva ≠ piece.rva)
    ⟨fun ⟨hsame, hother, hnowhere, hscattered⟩ => ⟨hsame, hother, hnowhere, hscattered⟩,
      fun h => ⟨h.sameAddress, h.otherCompiland, h.nowhereElse, h.scattered⟩⟩

instance (data : List StaticData) (piece : StaticData) : Decidable (Hidden data piece) :=
  inferInstanceAs (Decidable (∃ first, first ∈ data.head? ∧ Folded data first piece))

instance (s : Snapshot) (piece : StaticData) : Decidable (Uncounted s piece) :=
  inferInstanceAs (Decidable (Hidden _ piece))

section Carriers

theorem mem_carriers
    : compiland ∈ carriers f rest
        ↔ compiland = f.compiland ∨ ∃ d ∈ f :: rest, d.rva ≠ f.rva ∧ compiland = d.compiland := by
  unfold carriers
  simp [mem_firstSeen, and_assoc, eq_comm (b := compiland)]

theorem nodup_carriers (f : StaticData) (rest : List StaticData) : (carriers f rest).Nodup := by
  apply nodup_firstSeen

theorem exists_of_mem_carriers (h : compiland ∈ carriers f rest)
    : ∃ e ∈ f :: rest, compiland = e.compiland := by
  rcases mem_carriers.1 h with hself | ⟨d, hd, _, hd'⟩
  . exact ⟨f, List.mem_cons_self, hself⟩
  . exact ⟨d, hd, hd'⟩

theorem hidden_cons : Hidden (f :: rest) e ↔ Folded (f :: rest) f e := by
  unfold Hidden
  simp

theorem compiland_mem_carriers_iff (hscattered : ∃ d ∈ f :: rest, d.rva ≠ f.rva)
    (he : e ∈ f :: rest)
    : e.compiland ∈ carriers f rest ↔ ¬Hidden (f :: rest) e := by
  rw [mem_carriers, hidden_cons]
  constructor
  . rintro (hself | ⟨d, hd, hrva, hsame⟩) hfolded
    . exact hfolded.otherCompiland hself.symm
    . exact hrva ((hfolded.nowhereElse d hd hsame.symm).trans hfolded.sameAddress.symm)
  . intro hnot
    by_contra hmissing
    rw [not_or] at hmissing
    -- A compiland without a piece at another address has all of them at that of the first piece.
    have haddress : ∀ d ∈ f :: rest, d.compiland = e.compiland → d.rva = f.rva := by
      intro d hd hcompiland
      by_contra hrva
      exact hmissing.2 ⟨d, hd, hrva, hcompiland.symm⟩
    have hsame := haddress e he rfl
    rw [← hsame] at haddress hscattered
    exact hnot ⟨hsame.symm, fun heq => hmissing.1 heq.symm, haddress, hscattered⟩

theorem not_hidden_of_one_address (h : ¬∃ d ∈ f :: rest, d.rva ≠ f.rva)
    : ¬Hidden (f :: rest) e := by
  rw [hidden_cons]
  intro hfolded
  have hscattered := hfolded.scattered
  rw [← hfolded.sameAddress] at hscattered
  exact h hscattered

theorem scattered_of_perm (hperm : (f :: xs).Perm (g :: ys))
    (h : ∃ d ∈ f :: xs, d.rva ≠ f.rva)
    : ∃ d ∈ g :: ys, d.rva ≠ g.rva := by
  by_contra hone
  push Not at hone
  obtain ⟨d, hd, hne⟩ := h
  exact hne ((hone d (hperm.subset hd)).trans (hone f (hperm.subset List.mem_cons_self)).symm)

theorem perm_carriers_iff (hperm : (f :: xs).Perm (g :: ys))
    (hscattered : ∃ d ∈ f :: xs, d.rva ≠ f.rva)
    : (carriers f xs).Perm (carriers g ys)
        ↔ ∀ e ∈ f :: xs, Hidden (f :: xs) e ↔ Hidden (g :: ys) e := by
  have hin {e : StaticData} (he : e ∈ f :: xs) := compiland_mem_carriers_iff hscattered he
  have hin' {e : StaticData} (he : e ∈ f :: xs) :=
    compiland_mem_carriers_iff (scattered_of_perm hperm hscattered) (hperm.subset he)
  rw [List.perm_ext_iff_of_nodup (nodup_carriers f xs) (nodup_carriers g ys)]
  constructor
  . intro h e he
    rw [← not_iff_not, ← hin he, ← hin' he]
    exact h e.compiland
  . intro h compiland
    constructor
    . intro hmem
      obtain ⟨e, he, rfl⟩ := exists_of_mem_carriers hmem
      rwa [hin' he, ← h e he, ← hin he]
    . intro hmem
      obtain ⟨e, he, rfl⟩ := exists_of_mem_carriers hmem
      have he := hperm.symm.subset he
      rwa [hin he, h e he, ← hin' he]

theorem carriers_eq_singleton (h : (carriers f rest).length ≤ 1)
    : carriers f rest = [f.compiland] := by
  have hself : f.compiland ∈ carriers f rest := mem_carriers.2 (.inl rfl)
  obtain ⟨c, hc⟩ := List.length_eq_one_iff.1 (h.antisymm (List.length_pos_of_mem hself))
  rw [hc] at hself ⊢
  rw [List.mem_singleton.1 hself]

theorem compiland_eq_of_single (h : (carriers f rest).length ≤ 1) (hd : d ∈ f :: rest)
    (hrva : d.rva ≠ f.rva)
    : d.compiland = f.compiland := by
  have hmem : d.compiland ∈ carriers f rest := mem_carriers.2 (.inr ⟨d, hd, hrva, rfl⟩)
  rw [carriers_eq_singleton h] at hmem
  exact List.mem_singleton.1 hmem

theorem perm_carriers_of_single (hperm : (f :: xs).Perm (g :: ys))
    (hscattered : ∃ d ∈ f :: xs, d.rva ≠ f.rva) (hf : (carriers f xs).length ≤ 1)
    (hg : (carriers g ys).length ≤ 1)
    : (carriers f xs).Perm (carriers g ys) := by
  -- A piece at another address than both first pieces has the compiland of both.
  have hsame : f.compiland = g.compiland := by
    obtain ⟨d, hd, hrva⟩ := hscattered
    by_cases hfirst : g.rva = f.rva
    . rw [← compiland_eq_of_single hf hd hrva]
      exact compiland_eq_of_single hg (hperm.subset hd) (hfirst ▸ hrva)
    . exact (compiland_eq_of_single hf (hperm.symm.subset List.mem_cons_self) hfirst).symm
  rw [carriers_eq_singleton hf, carriers_eq_singleton hg, hsame]

end Carriers

section Contents

theorem mem_referencedIn_ofCarriers {names : List String}
    : compiland ∈ (ofCarriers f names).referencedIn ↔ compiland ∈ names := by
  unfold ofCarriers
  rw [List.mem_mergeSort]

theorem referencedIn_ofCarriers_eq_iff {names others : List String}
    : (ofCarriers f names).referencedIn = (ofCarriers g others).referencedIn
        ↔ names.Perm others := by
  unfold ofCarriers
  dsimp only
  rw [mergeSort_utf8, mergeSort_utf8]
  constructor
  . intro h
    exact (names.mergeSort_perm _).symm.trans (h ▸ others.mergeSort_perm _)
  . intro h
    have hperm := (names.mergeSort_perm (· ≤ ·)).trans
      (h.trans (others.mergeSort_perm (· ≤ ·)).symm)
    apply hperm.eq_of_pairwise _ (List.pairwise_mergeSort' (· ≤ ·) names)
      (List.pairwise_mergeSort' (· ≤ ·) others)
    intro x y _ _ hxy hyx
    exact le_antisymm hxy hyx

theorem contents_ofCarriers_eq_iff {names others : List String} (h : likeness f = likeness g)
    : contents (ofCarriers f names) = contents (ofCarriers g others) ↔ names.Perm others := by
  rw [← referencedIn_ofCarriers_eq_iff (f := f) (g := g)]
  constructor
  . intro hcontents
    exact congrArg (·.2.1) hcontents
  . intro hnames
    have hlength := (referencedIn_ofCarriers_eq_iff.1 hnames).length_eq
    have hsize : f.size = g.size := by
      unfold likeness at h
      simp only [Prod.mk.injEq] at h
      exact h.2.1
    unfold contents
    rw [hnames]
    unfold ofCarriers
    dsimp only
    rw [h, hsize, hlength]

theorem ofClass?_of_scattered (h : ∃ d ∈ f :: rest, d.rva ≠ f.rva)
    : ofClass? (f :: rest)
        = if 1 < (carriers f rest).length then some (ofCarriers f (carriers f rest)) else none := by
  unfold ofClass?
  rw [List.exists_mem_cons_iff, or_iff_right (not_not_intro rfl)] at h
  simp only [h, true_and]

theorem ofClass?_of_one_address (h : ¬∃ d ∈ f :: rest, d.rva ≠ f.rva)
    : ofClass? (f :: rest) = none := by
  unfold ofClass?
  rw [List.exists_mem_cons_iff, not_or] at h
  simp only [h.2, false_and, if_false]

theorem map_contents_eq_iff (hperm : (f :: xs).Perm (g :: ys)) (hlike : likeness f = likeness g)
    : (ofClass? (f :: xs)).map contents = (ofClass? (g :: ys)).map contents
        ↔ ∀ e ∈ f :: xs, Hidden (f :: xs) e ↔ Hidden (g :: ys) e := by
  by_cases hscattered : ∃ d ∈ f :: xs, d.rva ≠ f.rva
  . rw [← perm_carriers_iff hperm hscattered, ofClass?_of_scattered hscattered,
      ofClass?_of_scattered (scattered_of_perm hperm hscattered)]
    by_cases hf : 1 < (carriers f xs).length <;> by_cases hg : 1 < (carriers g ys).length
    . rw [if_pos hf, if_pos hg, Option.map_some, Option.map_some, Option.some_inj]
      exact contents_ofCarriers_eq_iff hlike
    . rw [if_pos hf, if_neg hg]
      refine ⟨nofun, fun hnames => absurd (hnames.length_eq ▸ hf) hg⟩
    . rw [if_neg hf, if_pos hg]
      refine ⟨nofun, fun hnames => absurd (hnames.length_eq ▸ hg) hf⟩
    . rw [if_neg hf, if_neg hg]
      have hsame := perm_carriers_of_single hperm hscattered (not_lt.1 hf) (not_lt.1 hg)
      exact ⟨fun _ => hsame, fun _ => rfl⟩
  . have hscattered' : ¬∃ d ∈ g :: ys, d.rva ≠ g.rva :=
      fun h => hscattered (scattered_of_perm hperm.symm h)
    rw [ofClass?_of_one_address hscattered, ofClass?_of_one_address hscattered']
    refine ⟨fun _ e _ => ?_, fun _ => rfl⟩
    exact iff_of_false (not_hidden_of_one_address hscattered)
      (not_hidden_of_one_address hscattered')

end Contents

section Orders

def likenesses (s : Snapshot) : List Likeness :=
  firstSeen ((roomTaking s).map likeness)

def contents? (s : Snapshot) (k : Likeness)
    : Option (Likeness × List String × Nat × Nat) :=
  (ofClass? (classOf s k)).map contents

theorem mem_likenesses : k ∈ likenesses s ↔ ∃ d ∈ roomTaking s, likeness d = k := by
  unfold likenesses
  rw [mem_firstSeen, List.mem_map]

theorem mem_classOf : d ∈ classOf s k ↔ d ∈ roomTaking s ∧ likeness d = k := by
  unfold classOf
  rw [List.mem_filter, decide_eq_true_eq]

theorem perm_ofClasses (h : (find s).result = .ok items)
    : items.Perm ((likenesses s).filterMap fun k => ofClass? (classOf s k)) := by
  apply (perm_ofSnapshot h).trans
  unfold ofSnapshot classes
  rw [List.filterMap_map]
  exact List.mergeSort_perm _ _

theorem perm_contents (h : (find s).result = .ok items)
    : (items.map contents).Perm ((likenesses s).filterMap (contents? s)) := by
  have hmap := (perm_ofClasses h).map contents
  rwa [List.map_filterMap] at hmap

theorem fst_of_contents? {x : Likeness × List String × Nat × Nat}
    (h : contents? s k = some x)
    : x.1 = k := by
  obtain ⟨item, hitem, rfl⟩ := Option.map_eq_some_iff.1 h
  obtain ⟨first, rest, hdata, _, _, rfl⟩ := ofClass?_eq_some_iff.1 hitem
  exact (mem_classOf.1 (hdata ▸ List.mem_cons_self)).2

theorem perm_roomTaking (horder : s.staticData.Perm t.staticData)
    : (roomTaking s).Perm (roomTaking t) :=
  horder.filter _

theorem perm_classOf (horder : s.staticData.Perm t.staticData)
    (k : Likeness)
    : (classOf s k).Perm (classOf t k) :=
  (perm_roomTaking horder).filter _

theorem perm_likenesses (horder : s.staticData.Perm t.staticData)
    : (likenesses s).Perm (likenesses t) := by
  unfold likenesses
  rw [List.perm_ext_iff_of_nodup (nodup_firstSeen _) (nodup_firstSeen _)]
  intro k
  rw [mem_firstSeen, mem_firstSeen]
  exact ((perm_roomTaking horder).map likeness).mem_iff

theorem contents?_eq_iff (horder : s.staticData.Perm t.staticData) (hk : k ∈ likenesses s)
    : contents? s k = contents? t k
        ↔ ∀ e ∈ classOf s k, Uncounted s e ↔ Uncounted t e := by
  have hperm := perm_classOf horder k
  obtain ⟨d, hd, hlike⟩ := mem_likenesses.1 hk
  have hmem := mem_classOf.2 ⟨hd, hlike⟩
  have huncounted : (∀ e ∈ classOf s k, Uncounted s e ↔ Uncounted t e)
      ↔ ∀ e ∈ classOf s k, Hidden (classOf s k) e ↔ Hidden (classOf t k) e := by
    apply forall₂_congr
    intro e he
    unfold Uncounted
    rw [(mem_classOf.1 he).2]
  rw [huncounted]
  have hlikes : ∀ e ∈ classOf s k, likeness e = k := fun e he => (mem_classOf.1 he).2
  unfold contents?
  -- Both orders of the class have a first piece.
  obtain ⟨f, xs, hfirst⟩ := List.exists_cons_of_ne_nil (List.ne_nil_of_mem hmem)
  obtain ⟨g, ys, hfirst'⟩ := List.exists_cons_of_ne_nil (List.ne_nil_of_mem (hperm.subset hmem))
  rw [hfirst] at hperm hlikes ⊢
  rw [hfirst'] at hperm ⊢
  apply map_contents_eq_iff hperm
  rw [hlikes f List.mem_cons_self, hlikes g (hperm.symm.subset List.mem_cons_self)]

theorem perm_contents_iff (horder : s.staticData.Perm t.staticData)
    (hs : (find s).result = .ok items) (ht : (find t).result = .ok others)
    : (items.map contents).Perm (others.map contents)
        ↔ ∀ e ∈ roomTaking s, Uncounted s e ↔ Uncounted t e := by
  have ht := (perm_contents ht).trans ((perm_likenesses horder).symm.filterMap (contents? t))
  rw [(perm_contents hs).congr_left, ht.congr_right,
    perm_filterMap_iff (fun _ _ => fst_of_contents?) (fun _ _ => fst_of_contents?)]
  constructor
  . intro h e he
    have hk := mem_likenesses.2 ⟨e, he, rfl⟩
    exact (contents?_eq_iff horder hk).1 (h _ hk) e (mem_classOf.2 ⟨he, rfl⟩)
  . intro h k hk
    rw [contents?_eq_iff horder hk]
    intro e he
    exact h e (mem_classOf.1 he).1

theorem folded_of_perm (hperm : xs.Perm ys) (h : Folded xs d e) : Folded ys d e where
  sameAddress := h.sameAddress
  otherCompiland := h.otherCompiland
  nowhereElse piece hpiece := h.nowhereElse piece (hperm.symm.subset hpiece)
  scattered := h.scattered.imp fun _ hpiece => ⟨hperm.subset hpiece.1, hpiece.2⟩

theorem not_uncounted (hnone : ∀ d ∈ classOf s (likeness e), ¬Folded (classOf s (likeness e)) d e)
    (horder : s.staticData.Perm t.staticData)
    : ¬Uncounted t e := by
  rintro ⟨first, hfirst, hfolded⟩
  have hperm := (perm_classOf horder (likeness e)).symm
  exact hnone first (hperm.subset (List.mem_of_head? hfirst)) (folded_of_perm hperm hfolded)

theorem mem_carriers_classOf_iff (hdata : classOf s k = f :: rest)
    (hscattered : ∃ d ∈ f :: rest, d.rva ≠ f.rva) (he : e ∈ f :: rest)
    : e.compiland ∈ carriers f rest ↔ ¬Uncounted s e := by
  rw [compiland_mem_carriers_iff hscattered he]
  unfold Uncounted
  rw [(mem_classOf.1 (hdata ▸ he)).2, hdata]

theorem mem_referencedIn_iff {item : DuplicateData} (h : (find s).result = .ok items)
    (hitem : item ∈ items)
    : compiland ∈ item.referencedIn
        ↔ ∃ e ∈ classOf s (likeness item.symbol), e.compiland = compiland ∧ ¬Uncounted s e := by
  obtain ⟨k, _, hclass⟩ := List.mem_filterMap.1 ((perm_ofClasses h).subset hitem)
  obtain ⟨first, rest, hdata, hscattered, _, rfl⟩ := ofClass?_eq_some_iff.1 hclass
  have hscattered : ∃ d ∈ first :: rest, d.rva ≠ first.rva :=
    hscattered.imp fun _ hd => ⟨List.mem_cons_of_mem _ hd.1, hd.2⟩
  have hlike : likeness first = k := (mem_classOf.1 (hdata ▸ List.mem_cons_self)).2
  rw [mem_referencedIn_ofCarriers]
  show _ ↔ ∃ e ∈ classOf s (likeness first), e.compiland = compiland ∧ ¬Uncounted s e
  rw [hlike, hdata]
  constructor
  . intro hmem
    obtain ⟨e, he, rfl⟩ := exists_of_mem_carriers hmem
    exact ⟨e, he, rfl, (mem_carriers_classOf_iff hdata hscattered he).1 hmem⟩
  . rintro ⟨e, he, rfl, hcounted⟩
    exact (mem_carriers_classOf_iff hdata hscattered he).2 hcounted

end Orders

theorem found_alike_iff {m m' : Monitor} (horder : s.staticData.Perm t.staticData)
    (hs : ((find s).run m).1 = .ok items) (ht : ((find t).run m').1 = .ok others)
    : ((items.map contents).Perm (others.map contents)
        ↔ ∀ e ∈ roomTaking s, Uncounted s e ↔ Uncounted t e)
      ∧ ((∀ e ∈ roomTaking s, ∀ d ∈ classOf s (likeness e), ¬Folded (classOf s (likeness e)) d e)
        → (items.map contents).Perm (others.map contents))
      ∧ ∀ item ∈ items, ∀ compiland,
        compiland ∈ item.referencedIn
          ↔ ∃ e ∈ classOf s (likeness item.symbol), e.compiland = compiland ∧ ¬Uncounted s e := by
  have hs := Pass.result_of_run_eq_ok hs
  have ht := Pass.result_of_run_eq_ok ht
  refine ⟨perm_contents_iff horder hs ht, ?_, ?_⟩
  . intro hnone
    rw [perm_contents_iff horder hs ht]
    intro e he
    exact iff_of_false (not_uncounted (hnone e he) (List.Perm.refl _))
      (not_uncounted (hnone e he) horder)
  . intro item hitem compiland
    exact mem_referencedIn_iff hs hitem

def piece (rva : Nat) (compiland : String) : StaticData where
  name := "table"
  rva := rva
  size := 4
  virtualSize := 4
  compiland := compiland
  bytes := [1, 2]

def ofPieces (staticData : List StaticData) : Snapshot where
  staticData := staticData

theorem found_alike_iff_piece
    : ∃ items others,
      ((find (ofPieces [piece 16 "a", piece 16 "b", piece 32 "c"])).run (.start none)).1
          = .ok items
        ∧ ((find (ofPieces [piece 16 "a", piece 32 "c", piece 16 "b"])).run (.start none)).1
          = .ok others
        ∧ (items.map contents).Perm (others.map contents) := by
  refine ⟨_, _, rfl, rfl, ?_⟩
  have horder : (ofPieces [piece 16 "a", piece 16 "b", piece 32 "c"]).staticData.Perm
      (ofPieces [piece 16 "a", piece 32 "c", piece 16 "b"]).staticData := by decide
  apply (found_alike_iff (m := .start none) horder rfl (Eq.refl ((find _).run (.start none)).1)).1.2
  decide

theorem found_depends_on_order
    : ∃ s t items others,
      s = ofPieces [piece 16 "a", piece 16 "b", piece 32 "c"]
        ∧ t = ofPieces [piece 32 "c", piece 16 "a", piece 16 "b"]
        ∧ s.staticData.Perm t.staticData
        ∧ s.check = .ok () ∧ t.check = .ok ()
        ∧ ((find s).run (.start none)).1 = .ok items
        ∧ ((find t).run (.start none)).1 = .ok others
        ∧ items.map (fun d => (d.referencedIn, d.totalSize, d.wastedSize)) = [(["a", "c"], 8, 4)]
        ∧ others.map (fun d => (d.referencedIn, d.totalSize, d.wastedSize))
          = [(["a", "b", "c"], 12, 8)]
        ∧ ¬(items.map contents).Perm (others.map contents) := by
  have hfind : ∃ items, ((find (ofPieces [piece 16 "a", piece 16 "b", piece 32 "c"])).run
      (.start none)).1 = .ok items
      ∧ items.map (fun d => (d.referencedIn, d.totalSize, d.wastedSize)) = [(["a", "c"], 8, 4)] :=
    ⟨_, rfl, by simp [Copies.start, Copies.add, piece, List.mergeSort]⟩
  have hfind' : ∃ others, ((find (ofPieces [piece 32 "c", piece 16 "a", piece 16 "b"])).run
      (.start none)).1 = .ok others
      ∧ others.map (fun d => (d.referencedIn, d.totalSize, d.wastedSize))
        = [(["a", "b", "c"], 12, 8)] :=
    ⟨_, rfl, by simp [Copies.start, Copies.add, piece, List.mergeSort]⟩
  obtain ⟨items, hitems, hsays⟩ := hfind
  obtain ⟨others, hothers, hsays'⟩ := hfind'
  refine ⟨_, _, items, others, rfl, rfl, by decide, rfl, rfl, hitems, hothers, hsays, hsays', ?_⟩
  intro h
  have hsame := h.map Prod.snd
  rw [List.map_map, List.map_map] at hsame
  -- The compiland in the middle has a copy only at the address of the first piece.
  have hdiffer : ¬[(["a", "c"], 8, 4)].Perm [(["a", "b", "c"], 12, 8)] := by decide
  rw [← hsays, ← hsays'] at hdiffer
  exact hdiffer hsame

end DuplicateData
end Footprint
