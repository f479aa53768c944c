import Footprint.Proofs.FirstSeen
import Footprint.Waste.DuplicateData
import Mathlib.Data.List.Induction

/-!
This module contains what becomes of the data of one name and size when it is gone through: data of
different contents do not affect each other, and of data of equal contents the first piece collects
the compilands of all pieces at other addresses.
-/

namespace Footprint

def Copies.gathered (first : StaticData) (rest : List StaticData) : Copies where
  symbol := first
  referencedIn := firstSeen ((first :: rest.filter (·.rva ≠ first.rva)).map (·.compiland))

theorem Copies.add_eq (c : Copies) (compiland : String)
    : c.add compiland
        = { c with referencedIn :=
              if compiland ∈ c.referencedIn then c.referencedIn
              else c.referencedIn ++ [compiland] } := by
  unfold add
  split <;> rfl

theorem Copies.gathered_append_of_ne {first d : StaticData} (h : d.rva ≠ first.rva)
    (rest : List StaticData)
    : gathered first (rest ++ [d]) = (gathered first rest).add d.compiland := by
  have hd : [d].filter (·.rva ≠ first.rva) = [d] := by simp [h]
  rw [add_eq]
  unfold gathered
  rw [List.filter_append, hd, ← List.cons_append, List.map_append, List.map_singleton,
    firstSeen_append_singleton]
  simp only [mem_firstSeen]

theorem Copies.gathered_append_of_eq {first d : StaticData} (h : d.rva = first.rva)
    (rest : List StaticData)
    : gathered first (rest ++ [d]) = gathered first rest := by
  have hd : [d].filter (·.rva ≠ first.rva) = [] := by simp [h]
  unfold gathered
  rw [List.filter_append, hd, List.append_nil]

theorem Copies.gathered_of_all_eq {first : StaticData} {rest : List StaticData}
    (h : ∀ d ∈ rest, d.rva = first.rva)
    : gathered first rest = start first first.compiland := by
  unfold gathered start
  have hnone : rest.filter (·.rva ≠ first.rva) = [] := by
    rw [List.filter_eq_nil_iff]
    intro d hd
    simpa using h d hd
  rw [hnone]
  rfl

namespace DuplicateData

variable {b : List UInt8} {d : StaticData}

theorem areCopies_iff {first second : StaticData}
    : areCopies first second = true ↔ first.rva ≠ second.rva ∧ first.bytes = second.bytes := by
  unfold areCopies
  simp

namespace Candidates

variable {cs : Candidates} {copied joined : List Copies}

def restrict (cs : Candidates) (b : List UInt8) : Candidates where
  single := cs.single.filter (·.bytes = b)
  copied := cs.copied.filter (·.symbol.bytes = b)

section Restrict

theorem symbol_add (c : Copies) (compiland : String) : (c.add compiland).symbol = c.symbol := by
  rw [Copies.add_eq]

theorem join?_filter (d : StaticData) (copied : List Copies)
    : join? d (copied.filter (·.symbol.bytes = d.bytes))
        = (join? d copied).map (List.filter (·.symbol.bytes = d.bytes)) := by
  induction copied with
  | nil => rfl
  | cons c copied ih =>
    rw [List.filter_cons]
    by_cases hbytes : c.symbol.bytes = d.bytes
    . rw [if_pos (by simpa using hbytes)]
      unfold join?
      split
      . simp [symbol_add, hbytes]
      . rw [ih, Option.map_map, Option.map_map]
        congr 1
        funext rest
        simp [hbytes]
    . have hnot : areCopies c.symbol d = false := by
        rw [Bool.eq_false_iff, ne_eq, areCopies_iff]
        exact fun h => hbytes h.2
      rw [if_neg (by simpa using hbytes), ih]
      conv => rhs; unfold join?
      rw [hnot, if_neg (by simp), Option.map_map]
      congr 1
      funext rest
      simp [hbytes]

theorem filter_of_join?_eq_some (hne : d.bytes ≠ b) (h : join? d copied = some joined)
    : joined.filter (·.symbol.bytes = b) = copied.filter (·.symbol.bytes = b) := by
  induction copied generalizing joined with
  | nil => cases h
  | cons c copied ih =>
    unfold join? at h
    split at h
    . next hcopies =>
      cases h
      have hb : c.symbol.bytes ≠ b := (areCopies_iff.1 hcopies).2 ▸ hne
      simp [symbol_add, hb]
    . obtain ⟨rest, hrest, rfl⟩ := Option.map_eq_some_iff.1 h
      rw [List.filter_cons, List.filter_cons, ih hrest]

theorem find?_filter_bytes (d : StaticData) (single : List StaticData)
    : (single.filter (·.bytes = d.bytes)).find? (areCopies · d)
        = single.find? (areCopies · d) := by
  rw [List.find?_filter]
  congr 1
  funext first
  have := @areCopies_iff first d
  grind

theorem eraseP_filter_bytes (d : StaticData) (single : List StaticData)
    : (single.filter (·.bytes = d.bytes)).eraseP (areCopies · d)
        = (single.eraseP (areCopies · d)).filter (·.bytes = d.bytes) := by
  rw [List.eraseP_filter]
  congr 2
  funext first
  have := @areCopies_iff first d
  grind

theorem filter_eraseP_of_ne (hne : d.bytes ≠ b) (single : List StaticData)
    : (single.eraseP (areCopies · d)).filter (·.bytes = b) = single.filter (·.bytes = b) := by
  induction single with
  | nil => rfl
  | cons first single ih =>
    cases hcopies : areCopies first d with
    | true =>
      have hb : first.bytes ≠ b := (areCopies_iff.1 hcopies).2 ▸ hne
      rw [List.eraseP_cons_of_pos (p := (areCopies · d)) hcopies, List.filter_cons,
        if_neg (by simpa using hb)]
    | false =>
      rw [List.eraseP_cons_of_neg (p := (areCopies · d)) (by simp [hcopies]), List.filter_cons,
        List.filter_cons, ih]

theorem restrict_take_self (cs : Candidates) (d : StaticData)
    : (cs.take d).restrict d.bytes = (cs.restrict d.bytes).take d := by
  -- A piece of data is only compared with data of its own contents.
  unfold take restrict
  dsimp only
  rw [join?_filter]
  cases join? d cs.copied with
  | some joined => rfl
  | none =>
    dsimp only [Option.map_none]
    rw [find?_filter_bytes]
    cases hfind : cs.single.find? (areCopies · d) with
    | some first =>
      have hcopies : areCopies first d = true := by
        simpa using List.find?_some hfind
      have hbytes := (areCopies_iff.1 hcopies).2
      dsimp only
      rw [eraseP_filter_bytes, List.filter_append]
      simp [symbol_add, Copies.start, hbytes]
    | none => simp

theorem restrict_take_of_ne (hne : d.bytes ≠ b) (cs : Candidates)
    : (cs.take d).restrict b = cs.restrict b := by
  unfold take restrict
  cases hjoin : join? d cs.copied with
  | some joined =>
    dsimp only
    rw [filter_of_join?_eq_some hne hjoin]
  | none =>
    cases hfind : cs.single.find? (areCopies · d) with
    | some first =>
      have hcopies : areCopies first d = true := by
        simpa using List.find?_some hfind
      have hbytes := (areCopies_iff.1 hcopies).2
      dsimp only
      rw [filter_eraseP_of_ne hne, List.filter_append]
      simp [symbol_add, Copies.start, hbytes, hne]
    | none => simp [hne]

theorem restrict_foldl (b : List UInt8) (cs : Candidates) (data : List StaticData)
    : (data.foldl take cs).restrict b
        = (data.filter (·.bytes = b)).foldl take (cs.restrict b) := by
  induction data generalizing cs with
  | nil => rfl
  | cons d data ih =>
    rw [List.foldl_cons, ih, List.filter_cons]
    by_cases hb : d.bytes = b
    . subst hb
      rw [if_pos (by simp), List.foldl_cons, restrict_take_self]
    . rw [if_neg (by simpa using hb), restrict_take_of_ne hb]

theorem restrict_foldl_empty (b : List UInt8) (data : List StaticData)
    : (data.foldl take .empty).restrict b
        = (data.filter (·.bytes = b)).foldl take .empty := by
  apply restrict_foldl

end Restrict

section Gather

variable {first : StaticData} {rest : List StaticData}

/--
What has been made of data of equal contents. Without a piece at another address than the first one
nothing has been found. With one the first piece has gathered all of them, and what is left over
lies at its address.
-/
structure Gathers (cs : Candidates) (first : StaticData) (rest : List StaticData) : Prop where
  single : (∀ d ∈ rest, d.rva = first.rva) → cs = { single := first :: rest, copied := [] }
  copied : (∃ d ∈ rest, d.rva ≠ first.rva) → cs.copied = [.gathered first rest]
    ∧ ∀ d ∈ cs.single, d.rva = first.rva

theorem gathers_singleton (first : StaticData)
    : Gathers (take .empty first) first [] where
  single _ := rfl
  copied h := by
    obtain ⟨d, hd, _⟩ := h
    cases hd

theorem not_areCopies_of_rva {first d : StaticData} (h : first.rva = d.rva)
    : areCopies first d = false := by
  rw [Bool.eq_false_iff, ne_eq, areCopies_iff]
  exact fun hcopies => hcopies.1 h

theorem take_of_join?_eq_none (hjoin : join? d cs.copied = none)
    (hsingle : ∀ e ∈ cs.single, e.rva = d.rva)
    : cs.take d = { cs with single := cs.single ++ [d] } := by
  have hfind : cs.single.find? (areCopies · d) = none := by
    rw [List.find?_eq_none]
    intro e he
    rw [not_areCopies_of_rva (hsingle e he)]
    decide
  unfold take
  rw [hjoin]
  dsimp only
  rw [hfind]

theorem take_of_areCopies (h : areCopies first d = true) (rest : List StaticData)
    : take { single := first :: rest, copied := [] } d
        = { single := rest, copied := [(Copies.start first first.compiland).add d.compiland] } := by
  unfold take
  dsimp only [join?]
  rw [List.find?_cons_of_pos (p := (areCopies · d)) h]
  dsimp only
  rw [List.eraseP_cons_of_pos (p := (areCopies · d)) h]
  rfl

theorem join?_singleton (d : StaticData) (c : Copies)
    : join? d [c] = if areCopies c.symbol d then some [c.add d.compiland] else none := by
  unfold join?
  split <;> rfl

theorem Gathers.take_of_all_eq (h : Gathers cs first rest) (hbytes : d.bytes = first.bytes)
    (hall : ∀ e ∈ rest, e.rva = first.rva)
    : Gathers (cs.take d) first (rest ++ [d]) := by
  have hcs := h.single hall
  subst hcs
  by_cases hd : d.rva = first.rva
  . have hsingle : ∀ e ∈ first :: rest, e.rva = d.rva := by
      simp only [List.mem_cons, forall_eq_or_imp, hd, true_and]
      exact hall
    rw [take_of_join?_eq_none rfl hsingle]
    refine ⟨fun _ => rfl, ?_⟩
    intro ⟨e, he, hne⟩
    rw [List.mem_append, List.mem_singleton] at he
    rcases he with he | rfl
    . exact absurd (hall e he) hne
    . exact absurd hd hne
  . have hcopies : areCopies first d = true :=
      areCopies_iff.2 ⟨fun heq => hd heq.symm, hbytes.symm⟩
    rw [take_of_areCopies hcopies]
    refine ⟨fun heq => absurd (heq d (by simp)) hd, fun _ => ⟨?_, hall⟩⟩
    rw [Copies.gathered_append_of_ne hd, Copies.gathered_of_all_eq hall]

theorem Gathers.take_of_exists_ne (h : Gathers cs first rest) (hbytes : d.bytes = first.bytes)
    (hsome : ∃ e ∈ rest, e.rva ≠ first.rva)
    : Gathers (cs.take d) first (rest ++ [d]) := by
  have ⟨hcopied, hleft⟩ := h.copied hsome
  have hnot : ¬∀ e ∈ rest ++ [d], e.rva = first.rva := by
    obtain ⟨e, he, hne⟩ := hsome
    exact fun hall => hne (hall e (List.mem_append_left [d] he))
  refine ⟨fun hall => absurd hall hnot, fun _ => ?_⟩
  have hjoin : join? d cs.copied
      = if areCopies first d then some [(Copies.gathered first rest).add d.compiland]
        else none := by
    rw [hcopied]
    exact join?_singleton d (.gathered first rest)
  by_cases hd : d.rva = first.rva
  . rw [if_neg (by rw [not_areCopies_of_rva hd.symm]; decide)] at hjoin
    rw [take_of_join?_eq_none hjoin fun e he => (hleft e he).trans hd.symm]
    refine ⟨?_, ?_⟩
    . rw [Copies.gathered_append_of_eq hd]
      exact hcopied
    . intro e he
      rw [List.mem_append, List.mem_singleton] at he
      rcases he with he | rfl
      . exact hleft e he
      . exact hd
  -- A piece at another address joins the copies, whatever its compiland is.
  . have hcopies : areCopies first d = true :=
      areCopies_iff.2 ⟨fun heq => hd heq.symm, hbytes.symm⟩
    rw [if_pos hcopies] at hjoin
    unfold take
    rw [hjoin, Copies.gathered_append_of_ne hd]
    exact ⟨rfl, hleft⟩

theorem Gathers.take (h : Gathers cs first rest) (hbytes : d.bytes = first.bytes)
    : Gathers (cs.take d) first (rest ++ [d]) := by
  by_cases hall : ∀ e ∈ rest, e.rva = first.rva
  . exact h.take_of_all_eq hbytes hall
  . apply h.take_of_exists_ne hbytes
    simpa using hall

theorem gathers_foldl (h : ∀ d ∈ rest, d.bytes = first.bytes)
    : Gathers ((first :: rest).foldl Candidates.take .empty) first rest := by
  induction rest using List.reverseRecOn with
  | nil => exact gathers_singleton first
  | append_singleton rest d ih =>
    rw [← List.cons_append, List.foldl_append]
    apply Gathers.take
    . exact ih fun e he => h e (List.mem_append_left [d] he)
    . exact h d (by simp)

theorem mem_copied_foldl_take {c : Copies} {data : List StaticData}
    : c ∈ (data.foldl Candidates.take .empty).copied
        ↔ ∃ rest, data.filter (·.bytes = c.symbol.bytes) = c.symbol :: rest
          ∧ (∃ d ∈ rest, d.rva ≠ c.symbol.rva)
          ∧ c = .gathered c.symbol rest := by
  -- Only data of the same contents counts, and that has a first piece or is empty.
  have hrestrict : c ∈ (data.foldl Candidates.take .empty).copied
      ↔ c ∈ ((data.filter (·.bytes = c.symbol.bytes)).foldl Candidates.take .empty).copied := by
    rw [← restrict_foldl_empty]
    unfold restrict
    simp
  rw [hrestrict]
  cases hfilter : data.filter (·.bytes = c.symbol.bytes) with
  | nil => simp [empty]
  | cons first rest =>
    have hbytes : ∀ d ∈ first :: rest, d.bytes = c.symbol.bytes := by
      intro d hd
      rw [← hfilter] at hd
      simpa using (List.mem_filter.1 hd).2
    have hfirst := hbytes first List.mem_cons_self
    have hgathers : Gathers _ first rest :=
      gathers_foldl fun d hd => (hbytes d (List.mem_cons_of_mem first hd)).trans hfirst.symm
    constructor
    . intro hc
      have hsome : ∃ d ∈ rest, d.rva ≠ first.rva := by
        by_contra hnone
        rw [hgathers.single (by simpa using hnone)] at hc
        cases hc
      rw [(hgathers.copied hsome).1, List.mem_singleton] at hc
      subst hc
      exact ⟨rest, rfl, hsome, rfl⟩
    . intro ⟨others, hcons, hsome, hc⟩
      cases hcons
      rw [(hgathers.copied hsome).1, List.mem_singleton]
      exact hc

end Gather

section Order

variable {data : List StaticData} {first : StaticData}

theorem symbols_of_join?_eq_some (h : join? d copied = some joined)
    : joined.map (·.symbol) = copied.map (·.symbol) := by
  induction copied generalizing joined with
  | nil => cases h
  | cons c copied ih =>
    unfold join? at h
    split at h
    . cases h
      rw [List.map_cons, List.map_cons, symbol_add]
    . obtain ⟨rest, hrest, rfl⟩ := Option.map_eq_some_iff.1 h
      rw [List.map_cons, List.map_cons, ih hrest]

theorem not_areCopies_of_join?_eq_none (h : join? d copied = none) {c : Copies} (hc : c ∈ copied)
    : areCopies c.symbol d = false := by
  induction copied with
  | nil => cases hc
  | cons c' copied ih =>
    unfold join? at h
    split at h
    . cases h
    . next hnot =>
      rcases List.mem_cons.1 hc with rfl | hc
      . exact Bool.eq_false_iff.2 hnot
      . exact ih (Option.map_eq_none_iff.1 h) hc

theorem symbols_take (cs : Candidates) (d : StaticData)
    : (cs.take d).copied.map (·.symbol) = cs.copied.map (·.symbol)
      ∨ ∃ first, first ∉ cs.copied.map (·.symbol)
        ∧ (cs.take d).copied.map (·.symbol) = cs.copied.map (·.symbol) ++ [first] := by
  unfold take
  cases hjoin : join? d cs.copied with
  | some joined => exact .inl (symbols_of_join?_eq_some hjoin)
  | none =>
    cases hfind : cs.single.find? (areCopies · d) with
    | none => exact .inl rfl
    | some first =>
      have hcopies : areCopies first d = true := by simpa using List.find?_some hfind
      refine .inr ⟨first, ?_, ?_⟩
      . intro hmem
        obtain ⟨c, hc, rfl⟩ := List.mem_map.1 hmem
        rw [not_areCopies_of_join?_eq_none hjoin hc] at hcopies
        cases hcopies
      . simp [symbol_add, Copies.start]

def opened (data : List StaticData) : List StaticData :=
  (data.foldl Candidates.take .empty).copied.map (·.symbol)

def opening (data : List StaticData) (first : StaticData) : Nat :=
  data.findIdx (areCopies first)

theorem opened_append (data : List StaticData) (d : StaticData)
    : opened (data ++ [d]) = opened data
      ∨ ∃ first ∉ opened data, opened (data ++ [d]) = opened data ++ [first] := by
  unfold opened
  rw [List.foldl_append]
  exact symbols_take (data.foldl Candidates.take .empty) d

theorem mem_opened
    : first ∈ opened data
        ↔ ∃ rest, data.filter (·.bytes = first.bytes) = first :: rest
          ∧ ∃ d ∈ rest, d.rva ≠ first.rva := by
  unfold opened
  rw [List.mem_map]
  constructor
  . rintro ⟨c, hc, rfl⟩
    have ⟨rest, hfilter, hsome, _⟩ := mem_copied_foldl_take.1 hc
    exact ⟨rest, hfilter, hsome⟩
  . intro ⟨rest, hfilter, hsome⟩
    exact ⟨.gathered first rest, mem_copied_foldl_take.2 ⟨rest, hfilter, hsome, rfl⟩, rfl⟩

theorem opening_lt (h : first ∈ opened data) : opening data first < data.length := by
  have ⟨rest, hfilter, d, hd, hne⟩ := mem_opened.1 h
  have hmem : d ∈ data.filter (·.bytes = first.bytes) := by
    rw [hfilter]
    exact List.mem_cons_of_mem first hd
  have ⟨hdata, hbytes⟩ := List.mem_filter.1 hmem
  apply List.findIdx_lt_length_of_exists
  exact ⟨d, hdata, areCopies_iff.2 ⟨hne.symm, (of_decide_eq_true hbytes).symm⟩⟩

theorem opening_append (h : opening data first < data.length) (d : StaticData)
    : opening (data ++ [d]) first = opening data first := by
  unfold opening at h ⊢
  rw [List.findIdx_append, if_pos h]

theorem length_le_opening (hopened : first ∈ opened (data ++ [d])) (hnew : first ∉ opened data)
    : data.length ≤ opening (data ++ [d]) first := by
  unfold opening
  rw [List.findIdx_append]
  split
  . next hlt =>
    -- With a copy among the earlier pieces it would have been opened before.
    have ⟨e, he, hcopies⟩ := List.findIdx_lt_length.1 hlt
    have ⟨hne, hbytes⟩ := areCopies_iff.1 hcopies
    have ⟨rest, hfilter, _⟩ := mem_opened.1 hopened
    have hmem : e ∈ data.filter (·.bytes = first.bytes) :=
      List.mem_filter.2 ⟨he, decide_eq_true hbytes.symm⟩
    exfalso
    apply hnew
    rw [mem_opened]
    rw [List.filter_append] at hfilter
    cases hdata : data.filter (·.bytes = first.bytes) with
    | nil =>
      rw [hdata] at hmem
      cases hmem
    | cons first' rest' =>
      rw [hdata, List.cons_append, List.cons.injEq] at hfilter
      obtain ⟨rfl, _⟩ := hfilter
      rw [hdata] at hmem
      rcases List.mem_cons.1 hmem with rfl | hmem
      . exact absurd rfl hne
      . exact ⟨rest', rfl, e, hmem, hne.symm⟩
  . exact Nat.le_add_left _ _

theorem pairwise_opening (data : List StaticData)
    : (opened data).Pairwise fun x y => opening data x < opening data y := by
  induction data using List.reverseRecOn with
  | nil => exact List.Pairwise.nil
  | append_singleton data d ih =>
    have hold : (opened data).Pairwise fun x y =>
        opening (data ++ [d]) x < opening (data ++ [d]) y := by
      apply ih.imp_of_mem
      intro x y hx hy hlt
      rw [opening_append (opening_lt hx), opening_append (opening_lt hy)]
      exact hlt
    rcases opened_append data d with hsame | ⟨first, hnew, happend⟩
    . rw [hsame]
      exact hold
    . have hopened : first ∈ opened (data ++ [d]) := by
        rw [happend]
        exact List.mem_append_right _ (List.mem_singleton_self first)
      rw [happend, List.pairwise_append]
      refine ⟨hold, List.pairwise_singleton _ _, ?_⟩
      intro x hx y hy
      rw [List.mem_singleton] at hy
      subst hy
      have hlt := opening_lt hx
      rw [opening_append hlt]
      exact Nat.lt_of_lt_of_le hlt (length_le_opening hopened hnew)

end Order

end Candidates
end DuplicateData
end Footprint
