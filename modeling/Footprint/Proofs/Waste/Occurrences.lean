import Footprint.Proofs.Pairing
import Footprint.Waste.DuplicateData
import Mathlib.Data.List.Nodup

/-!
This module contains the pairing of duplicate data by occurrence. Items of one name are paired in
their order, as long as no name is another name followed by the number of one of its occurrences.
With such a name, the keys of different items clash, and the pairing fails or pairs different data.
-/

namespace Footprint

namespace DuplicateData

section Keys

variable {name other : String} {i j : Nat}

def occurrenceKey (name : String) (earlier : Nat) : String :=
  if earlier = 0 then name else s!"{name}#{earlier + 1}"

theorem hash_not_mem_repr (n : Nat) : '#' ∉ n.repr.toList := by
  rw [Nat.toList_repr]
  intro h
  have hdigit := Nat.isDigit_of_mem_toDigits (by decide) (by decide) h
  revert hdigit
  decide

theorem takeWhile_ne_hash {digits : List Char} (h : '#' ∉ digits) (rest : List Char)
    : (digits.reverse ++ '#' :: rest).takeWhile (· ≠ '#') = digits.reverse := by
  rw [List.takeWhile_append_of_pos]
  . simp
  . intro c hc
    rw [List.mem_reverse] at hc
    simp only [decide_eq_true_eq]
    rintro rfl
    exact h hc

theorem numbered_inj (h : s!"{name}#{i}" = s!"{other}#{j}") : name = other ∧ i = j := by
  -- No digit is a hash, so the last hash of a numbered name separates the name from the number.
  have hlists : name.toList ++ '#' :: i.repr.toList = other.toList ++ '#' :: j.repr.toList := by
    have hlists := congrArg String.toList h
    have htext (text : String) (k : Nat) : s!"{text}#{k}" = text ++ "#" ++ k.repr := rfl
    rw [htext, htext] at hlists
    simpa using hlists
  have hreverse := congrArg List.reverse hlists
  simp only [List.reverse_append, List.reverse_cons, List.append_assoc, List.singleton_append]
    at hreverse
  have hdigits := congrArg (List.takeWhile (· ≠ '#')) hreverse
  rw [takeWhile_ne_hash (hash_not_mem_repr i), takeWhile_ne_hash (hash_not_mem_repr j),
    List.reverse_inj, Nat.toList_repr, Nat.toList_repr] at hdigits
  have hnumber : i = j := by
    rw [← Nat.ofDigitChars_ten_toDigits (n := i), hdigits, Nat.ofDigitChars_ten_toDigits]
  rw [hnumber] at hlists
  exact ⟨String.toList_inj.1 (List.append_cancel_right hlists), hnumber⟩

theorem occurrenceKey_zero (name : String) : occurrenceKey name 0 = name := by
  rfl

theorem occurrenceKey_of_ne_zero (h : i ≠ 0) : occurrenceKey name i = s!"{name}#{i + 1}" := by
  unfold occurrenceKey
  rw [if_neg h]

theorem numbered_ne_self (name : String) (k : Nat) : s!"{name}#{k}" ≠ name := by
  intro h
  have hlength := congrArg String.length h
  have htext : s!"{name}#{k}" = name ++ "#" ++ k.repr := rfl
  rw [htext, String.length_append, String.length_append] at hlength
  have hhash : "#".length = 1 := rfl
  omega

theorem occurrenceKey_inj (h : occurrenceKey name i = occurrenceKey name j) : i = j := by
  by_cases hi : i = 0
  . by_cases hj : j = 0
    . exact hi.trans hj.symm
    . rw [hi, occurrenceKey_zero, occurrenceKey_of_ne_zero hj] at h
      exact absurd h.symm (numbered_ne_self name _)
  . rw [occurrenceKey_of_ne_zero hi] at h
    by_cases hj : j = 0
    . rw [hj, occurrenceKey_zero] at h
      exact absurd h (numbered_ne_self name _)
    . rw [occurrenceKey_of_ne_zero hj] at h
      have := (numbered_inj h).2
      omega

theorem numbered_of_occurrenceKey_eq (hne : name ≠ other)
    (h : occurrenceKey name i = occurrenceKey other j)
    : (i ≠ 0 ∧ j = 0 ∧ s!"{name}#{i + 1}" = other)
      ∨ (i = 0 ∧ j ≠ 0 ∧ s!"{other}#{j + 1}" = name) := by
  by_cases hi : i = 0
  . rw [hi, occurrenceKey_zero] at h
    by_cases hj : j = 0
    . rw [hj, occurrenceKey_zero] at h
      exact absurd h hne
    . rw [occurrenceKey_of_ne_zero hj] at h
      exact .inr ⟨hi, hj, h.symm⟩
  . rw [occurrenceKey_of_ne_zero hi] at h
    by_cases hj : j = 0
    . rw [hj, occurrenceKey_zero] at h
      exact .inl ⟨hi, hj, h⟩
    . rw [occurrenceKey_of_ne_zero hj] at h
      exact absurd (numbered_inj h).1 hne

end Keys

def named (name : String) (items : List DuplicateData) : List DuplicateData :=
  items.filter (·.symbol.name = name)

section Occurrences

variable {name : String} {earlier : List String} {items xs ys : List DuplicateData}

theorem mem_named {d : DuplicateData}
    : d ∈ named name items ↔ d ∈ items ∧ d.symbol.name = name := by
  unfold named
  rw [List.mem_filter, decide_eq_true_eq]

theorem keyByOccurrence_go_cons (earlier : List String) (d : DuplicateData)
    (items : List DuplicateData)
    : keyByOccurrence.go earlier (d :: items)
        = (occurrenceKey d.symbol.name (earlier.count d.symbol.name), d)
          :: keyByOccurrence.go (d.symbol.name :: earlier) items := by
  rw [keyByOccurrence.go]
  unfold occurrenceKey
  simp only [Nat.add_eq_right]

theorem filter_keyByOccurrence_go (earlier : List String) (items : List DuplicateData)
    : (keyByOccurrence.go earlier items).filter (·.2.symbol.name = name)
        = ((named name items).zipIdx (earlier.count name)).map fun e =>
          (occurrenceKey name e.2, e.1) := by
  induction items generalizing earlier with
  | nil => rfl
  | cons d items ih =>
    rw [keyByOccurrence_go_cons, List.filter_cons, ih]
    unfold named
    rw [List.filter_cons]
    by_cases hname : d.symbol.name = name
    . simp [hname]
    . simp [hname]

theorem filter_keyByOccurrence (name : String) (items : List DuplicateData)
    : (keyByOccurrence items).filter (·.2.symbol.name = name)
        = (named name items).zipIdx.map fun e => (occurrenceKey name e.2, e.1) := by
  apply filter_keyByOccurrence_go

theorem mem_keyByOccurrence_go {e : String × DuplicateData}
    : e ∈ keyByOccurrence.go earlier items
        ↔ ∃ k, (named e.2.symbol.name items)[k]? = some e.2
          ∧ e.1 = occurrenceKey e.2.symbol.name (earlier.count e.2.symbol.name + k) := by
  have hfilter : e ∈ keyByOccurrence.go earlier items
      ↔ e ∈ (keyByOccurrence.go earlier items).filter (·.2.symbol.name = e.2.symbol.name) := by
    rw [List.mem_filter]
    simp
  obtain ⟨key, d⟩ := e
  rw [hfilter, filter_keyByOccurrence_go]
  simp only [List.mem_map, Prod.exists, Prod.mk.injEq, List.mk_mem_zipIdx_iff_le_and_getElem?_sub]
  constructor
  . rintro ⟨_, i, ⟨hle, hget⟩, rfl, rfl⟩
    refine ⟨_, hget, ?_⟩
    rw [Nat.add_sub_cancel' hle]
  . rintro ⟨k, hget, rfl⟩
    refine ⟨d, _, ⟨Nat.le_add_right _ k, ?_⟩, rfl, rfl⟩
    rw [Nat.add_sub_cancel_left]
    exact hget

theorem mem_keyByOccurrence {e : String × DuplicateData}
    : e ∈ keyByOccurrence items
        ↔ ∃ k, (named e.2.symbol.name items)[k]? = some e.2
          ∧ e.1 = occurrenceKey e.2.symbol.name k := by
  unfold keyByOccurrence
  rw [mem_keyByOccurrence_go]
  simp only [List.count_nil, Nat.zero_add]

theorem map_snd_keyByOccurrence_go (earlier : List String) (items : List DuplicateData)
    : (keyByOccurrence.go earlier items).map Prod.snd = items := by
  induction items generalizing earlier with
  | nil => rfl
  | cons d items ih => rw [keyByOccurrence_go_cons, List.map_cons, ih]

def KeysTellNames (xs ys : List (String × DuplicateData)) : Prop :=
  ∀ e ∈ xs, ∀ f ∈ ys, e.1 = f.1 → e.2.symbol.name = f.2.symbol.name

theorem nodup_keyByOccurrence_go
    (h : KeysTellNames (keyByOccurrence.go earlier items) (keyByOccurrence.go earlier items))
    : ((keyByOccurrence.go earlier items).map Prod.fst).Nodup := by
  induction items generalizing earlier with
  | nil => exact List.nodup_nil
  | cons d items ih =>
    rw [keyByOccurrence_go_cons] at h ⊢
    rw [List.map_cons, List.nodup_cons]
    constructor
    . intro hmem
      obtain ⟨f, hf, hkey⟩ := List.mem_map.1 hmem
      have hname := h _ List.mem_cons_self f (List.mem_cons_of_mem _ hf) hkey.symm
      dsimp only at hname hkey
      have ⟨k, _, hnumber⟩ := mem_keyByOccurrence_go.1 hf
      -- A later item of the name has a larger number.
      rw [hnumber, ← hname, List.count_cons_self] at hkey
      have := occurrenceKey_inj hkey
      omega
    . apply ih
      intro e he f hf
      exact h e (List.mem_cons_of_mem _ he) f (List.mem_cons_of_mem _ hf)

theorem nodup_keyByOccurrence_iff
    : ((keyByOccurrence items).map Prod.fst).Nodup
        ↔ KeysTellNames (keyByOccurrence items) (keyByOccurrence items) := by
  constructor
  . intro h e he f hf hkey
    rw [List.inj_on_of_nodup_map h he hf hkey]
  . exact nodup_keyByOccurrence_go

/--
Whether some counted name, followed by the number of its second or a later occurrence, is the name
of another item.
-/
def Clashes (counted items : List DuplicateData) : Prop :=
  ∃ name number, 2 ≤ number ∧ number ≤ (named name counted).length
    ∧ s!"{name}#{number}" ∈ items.map (·.symbol.name)

theorem symbol_name_of_getElem? {k : Nat} {d : DuplicateData} (h : (named name items)[k]? = some d)
    : d.symbol.name = name := by
  exact (mem_named.1 (List.mem_of_getElem? h)).2

theorem mem_keyByOccurrence_of_getElem? {k : Nat} {d : DuplicateData}
    (h : (named name items)[k]? = some d)
    : (occurrenceKey name k, d) ∈ keyByOccurrence items := by
  have hname := symbol_name_of_getElem? h
  subst hname
  exact mem_keyByOccurrence.2 ⟨k, h, rfl⟩

theorem length_named_pos (h : name ∈ items.map (·.symbol.name))
    : 0 < (named name items).length := by
  obtain ⟨d, hd, hname⟩ := List.mem_map.1 h
  exact List.length_pos_of_mem (mem_named.2 ⟨hd, hname⟩)

theorem KeysTellNames.symm {xs ys : List (String × DuplicateData)} (h : KeysTellNames xs ys)
    : KeysTellNames ys xs := by
  intro e he f hf hkey
  exact (h f hf e he hkey.symm).symm

theorem not_clashes (h : KeysTellNames (keyByOccurrence xs) (keyByOccurrence ys))
    : ¬Clashes xs ys := by
  intro ⟨name, number, htwo, hle, hmem⟩
  have hlt : number - 1 < (named name xs).length := by omega
  have hd := List.getElem?_eq_getElem hlt
  have hf := List.getElem?_eq_getElem (length_named_pos hmem)
  have hkey : occurrenceKey name (number - 1) = s!"{name}#{number}" := by
    rw [occurrenceKey_of_ne_zero (by omega), Nat.sub_add_cancel (by omega)]
  have hnames := h _ (mem_keyByOccurrence_of_getElem? hd) _ (mem_keyByOccurrence_of_getElem? hf)
    (hkey.trans (occurrenceKey_zero _).symm)
  rw [symbol_name_of_getElem? hd, symbol_name_of_getElem? hf] at hnames
  exact numbered_ne_self name number hnames.symm

theorem clashes_of_key {k : Nat} {d f : DuplicateData}
    (hget : (named d.symbol.name xs)[k]? = some d) (hk : k ≠ 0)
    (hf : (named f.symbol.name ys)[0]? = some f)
    (hkey : s!"{d.symbol.name}#{k + 1}" = f.symbol.name)
    : Clashes xs ys := by
  have ⟨hlt, _⟩ := List.getElem?_eq_some_iff.1 hget
  refine ⟨d.symbol.name, k + 1, by omega, by omega, ?_⟩
  rw [hkey]
  exact List.mem_map_of_mem (mem_named.1 (List.mem_of_getElem? hf)).1

theorem keysTellNames_iff
    : KeysTellNames (keyByOccurrence xs) (keyByOccurrence ys)
        ↔ ¬Clashes xs ys ∧ ¬Clashes ys xs := by
  constructor
  . intro h
    exact ⟨not_clashes h, not_clashes h.symm⟩
  . intro ⟨hxy, hyx⟩ e he f hf hkey
    by_contra hne
    have ⟨i, hi, hkeye⟩ := mem_keyByOccurrence.1 he
    have ⟨j, hj, hkeyf⟩ := mem_keyByOccurrence.1 hf
    rw [hkeye, hkeyf] at hkey
    rcases numbered_of_occurrenceKey_eq hne hkey with ⟨hi0, rfl, hnumbered⟩ | ⟨rfl, hj0, hnumbered⟩
    . exact hxy (clashes_of_key hi hi0 hj hnumbered)
    . exact hyx (clashes_of_key hj hj0 hi hnumbered)

end Occurrences

section Pairing

variable {before after xs ys : List DuplicateData} {diffs : List (Diff DuplicateData)}
  {name : String} {e : String × DuplicateData} {k : Nat}

def JoinOneName (diffs : List (Diff DuplicateData)) : Prop :=
  ∀ d ∈ diffs, ∀ v ∈ d.sides, v.symbol.name = d.name

/--
Whether some diffs pair the items of every name in their order: each occurrence of the name in the
earlier list with the same occurrence in the later one, if there is one.
-/
structure PairsInOrder (before after : List DuplicateData) (diffs : List (Diff DuplicateData))
    : Prop where
  oneName : JoinOneName diffs
  counts : ∀ name, (diffs.filter (·.name = name)).length
    = max (named name before).length (named name after).length
  occurrences : ∀ (name : String) (k : Nat), (diffs.filter (·.name = name))[k]?
    = Diff.ofSides? (named name before)[k]? (named name after)[k]?

theorem diff_eq_ok_iff
    : DuplicateData.diff before after = .ok diffs
        ↔ ∃ pairs, pairByKey Prod.fst (keyByOccurrence before) (keyByOccurrence after) = .ok pairs
          ∧ pairs.map (·.map Prod.snd) = diffs := by
  unfold DuplicateData.diff
  rw [Except.bind_eq_ok]
  simp only [Except.pure_eq_ok, Except.ok.injEq]

theorem sidesAddUp_of_diff (h : DuplicateData.diff before after = .ok diffs)
    : SidesAddUp diffs before after := by
  obtain ⟨pairs, hpairs, rfl⟩ := diff_eq_ok_iff.1 h
  have haddUp := (sidesAddUp_of_pairByKey hpairs).map Prod.snd
  unfold keyByOccurrence at haddUp
  rw [map_snd_keyByOccurrence_go, map_snd_keyByOccurrence_go] at haddUp
  exact haddUp

theorem getElem?_of_key (htell : KeysTellNames (keyByOccurrence xs) (keyByOccurrence ys))
    {d : DuplicateData} (hd : (named name xs)[k]? = some d) (he : e ∈ keyByOccurrence ys)
    (hkey : e.1 = occurrenceKey name k)
    : (named name ys)[k]? = some e.2 := by
  have hname := htell _ (mem_keyByOccurrence_of_getElem? hd) e he hkey.symm
  have ⟨j, hget, hnumber⟩ := mem_keyByOccurrence.1 he
  dsimp only at hname
  rw [← hname, symbol_name_of_getElem? hd] at hget hnumber
  rw [hkey] at hnumber
  rw [occurrenceKey_inj hnumber]
  exact hget

theorem find?_occurrence (hkeys : ((keyByOccurrence after).map Prod.fst).Nodup)
    (htell : KeysTellNames (keyByOccurrence before) (keyByOccurrence after)) {b : DuplicateData}
    (hb : (named name before)[k]? = some b)
    : (keyByOccurrence after).find? (·.1 = occurrenceKey name k)
        = (named name after)[k]?.map fun a => (occurrenceKey name k, a) := by
  ext f
  rw [find?_key_eq_some_iff hkeys, Option.map_eq_some_iff]
  constructor
  . intro ⟨hf, hkey⟩
    refine ⟨f.2, getElem?_of_key htell hb hf hkey, ?_⟩
    rw [← hkey]
  . rintro ⟨a, ha, rfl⟩
    exact ⟨mem_keyByOccurrence_of_getElem? ha, rfl⟩

theorem name_map_pairWith (xs : List (String × DuplicateData)) (e : String × DuplicateData)
    : ((pairWith Prod.fst xs e).map Prod.snd).name = e.2.symbol.name := by
  unfold Diff.name
  rw [Diff.either_map, either_pairWith]
  rfl

theorem getElem?_filter_matched (hkeys : ((keyByOccurrence after).map Prod.fst).Nodup)
    (htell : KeysTellNames (keyByOccurrence before) (keyByOccurrence after)) (name : String)
    (k : Nat)
    : ((((keyByOccurrence before).map (pairWith Prod.fst (keyByOccurrence after))).map
          (·.map Prod.snd)).filter (·.name = name))[k]?
        = (named name before)[k]?.bind fun b => Diff.ofSides? (some b) (named name after)[k]? := by
  rw [List.map_map, List.filter_map]
  simp only [Function.comp_def, name_map_pairWith]
  rw [filter_keyByOccurrence, List.map_map, List.getElem?_map, List.getElem?_zipIdx, Option.map_map]
  cases hb : (named name before)[k]? with
  | none => rfl
  | some b =>
    rw [Option.map_some, Option.bind_some]
    simp only [Function.comp_apply, Nat.zero_add]
    rw [← Option.map_some (f := fun d => Diff.map Prod.snd d), pairWith_eq_ofSides? rfl,
      Diff.map_ofSides?, find?_occurrence hkeys htell hb]
    cases (named name after)[k]? <;> rfl

theorem map_fst_filter_zipIdx {α : Type} (xs : List α) (least start : Nat)
    : ((xs.zipIdx start).filter (least ≤ ·.2)).map Prod.fst = xs.drop (least - start) := by
  induction xs generalizing start with
  | nil => simp
  | cons x xs ih =>
    rw [List.zipIdx_cons, List.filter_cons]
    by_cases h : least ≤ start
    . have hnext : least - (start + 1) = 0 := by omega
      have hstart : least - start = 0 := by omega
      simp [h, ih, hnext, hstart]
    . have hnext : least - start = least - (start + 1) + 1 := by omega
      simp [h, ih, hnext]

theorem occurrenceKey_mem_iff
    (htell : KeysTellNames (keyByOccurrence before) (keyByOccurrence after)) {a : DuplicateData}
    (ha : (named name after)[k]? = some a)
    : occurrenceKey name k ∈ (keyByOccurrence before).map Prod.fst
        ↔ k < (named name before).length := by
  rw [List.mem_map]
  constructor
  . intro ⟨e, he, hkey⟩
    exact (List.getElem?_eq_some_iff.1 (getElem?_of_key htell.symm ha he hkey)).1
  . intro hlt
    exact ⟨_, mem_keyByOccurrence_of_getElem? (List.getElem?_eq_getElem hlt), rfl⟩

theorem filter_added (htell : KeysTellNames (keyByOccurrence before) (keyByOccurrence after))
    (name : String)
    : ((((keyByOccurrence after).filter (·.1 ∉ (keyByOccurrence before).map Prod.fst)).map
          Diff.afterOnly).map (·.map Prod.snd)).filter (·.name = name)
        = ((named name after).drop (named name before).length).map .afterOnly := by
  have hname (e : String × DuplicateData)
      : ((Diff.afterOnly e).map Prod.snd).name = e.2.symbol.name := rfl
  have hadded : ((named name after).zipIdx.filter fun e =>
        occurrenceKey name e.2 ∉ (keyByOccurrence before).map Prod.fst)
      = (named name after).zipIdx.filter ((named name before).length ≤ ·.2) := by
    apply List.filter_congr
    rintro ⟨a, k⟩ he
    rw [List.mk_mem_zipIdx_iff_getElem?] at he
    rw [decide_eq_decide, occurrenceKey_mem_iff htell he]
    exact Nat.not_lt
  rw [List.map_map, List.filter_map]
  simp only [Function.comp_def, hname]
  rw [List.filter_comm, filter_keyByOccurrence, List.filter_map]
  simp only [Function.comp_def]
  rw [hadded, List.map_map]
  simp only [Function.comp_def, Diff.map]
  rw [← Nat.sub_zero (named name before).length, ← map_fst_filter_zipIdx, List.map_map]
  rfl

theorem length_filter_matched (name : String)
    : ((((keyByOccurrence before).map (pairWith Prod.fst (keyByOccurrence after))).map
          (·.map Prod.snd)).filter (·.name = name)).length
        = (named name before).length := by
  rw [List.map_map, List.filter_map]
  simp only [Function.comp_def, name_map_pairWith]
  rw [filter_keyByOccurrence, List.length_map, List.length_map, List.length_zipIdx]

theorem getElem?_filter_diff (h : DuplicateData.diff before after = .ok diffs)
    (htell : KeysTellNames (keyByOccurrence before) (keyByOccurrence after)) (name : String)
    (k : Nat)
    : (diffs.filter (·.name = name))[k]?
        = Diff.ofSides? (named name before)[k]? (named name after)[k]? := by
  obtain ⟨pairs, hpairs, rfl⟩ := diff_eq_ok_iff.1 h
  obtain ⟨_, hkeys, rfl⟩ := pairByKey_eq_ok.1 hpairs
  rw [List.map_append, List.filter_append, List.getElem?_append, length_filter_matched,
    filter_added htell]
  split
  . rename_i hlt
    rw [getElem?_filter_matched hkeys htell, List.getElem?_eq_getElem hlt]
    rfl
  . rename_i hle
    rw [List.getElem?_map, List.getElem?_drop, Nat.add_sub_cancel' (by omega),
      List.getElem?_eq_none (l := named name before) (by omega)]
    cases (named name after)[k]? <;> rfl

theorem length_eq_max {xs : List (Diff DuplicateData)} {bs as : List DuplicateData}
    (h : ∀ k : Nat, xs[k]? = Diff.ofSides? bs[k]? as[k]?)
    : xs.length = max bs.length as.length := by
  have hlt (k : Nat) : k < xs.length ↔ k < bs.length ∨ k < as.length := by
    have hsides : (Diff.ofSides? bs[k]? as[k]?).isSome ↔ _ := Diff.isSome_ofSides?
    rw [← h k, isSome_getElem?, isSome_getElem?, isSome_getElem?] at hsides
    exact hsides
  have hself := hlt xs.length
  have hmax := hlt (max bs.length as.length)
  omega

theorem joinOneName_of_diff (h : DuplicateData.diff before after = .ok diffs)
    (htell : KeysTellNames (keyByOccurrence before) (keyByOccurrence after))
    : JoinOneName diffs := by
  intro d hd v hv
  have hfilter : d ∈ diffs.filter (·.name = d.name) := List.mem_filter.2 ⟨hd, by simp⟩
  have ⟨k, hk⟩ := List.mem_iff_getElem?.1 hfilter
  rw [getElem?_filter_diff h htell, Diff.ofSides?_eq_some] at hk
  rw [Diff.mem_sides, hk.1, hk.2] at hv
  rcases hv with hv | hv
  . exact symbol_name_of_getElem? hv
  . exact symbol_name_of_getElem? hv

theorem pairsInOrder_of_keysTellNames (h : DuplicateData.diff before after = .ok diffs)
    (htell : KeysTellNames (keyByOccurrence before) (keyByOccurrence after))
    : PairsInOrder before after diffs where
  oneName := joinOneName_of_diff h htell
  counts name := length_eq_max fun k => getElem?_filter_diff h htell name k
  occurrences := getElem?_filter_diff h htell

theorem keysTellNames_of_joinOneName (h : DuplicateData.diff before after = .ok diffs)
    (hjoin : JoinOneName diffs)
    : KeysTellNames (keyByOccurrence before) (keyByOccurrence after) := by
  intro e he f hf hkey
  obtain ⟨pairs, hpairs, rfl⟩ := diff_eq_ok_iff.1 h
  have ⟨_, hkeys, hlist⟩ := pairByKey_eq_ok.1 hpairs
  have hfind := (find?_key_eq_some_iff hkeys).2 ⟨hf, hkey.symm⟩
  have hmem : Diff.both e f ∈ pairs := by
    rw [hlist, List.mem_append, List.mem_map]
    refine .inl ⟨e, he, Option.some.inj ?_⟩
    rw [pairWith_eq_ofSides? rfl, hfind]
    rfl
  have hdiff := List.mem_map_of_mem (f := fun d => d.map Prod.snd) hmem
  exact (hjoin _ hdiff f.2 (by simp [Diff.map, Diff.sides])).symm

theorem exists_diff_iff
    : (∃ diffs, DuplicateData.diff before after = .ok diffs)
        ↔ ¬Clashes before before ∧ ¬Clashes after after := by
  have hpairs : (∃ diffs, DuplicateData.diff before after = .ok diffs)
      ↔ ((keyByOccurrence before).map Prod.fst).Nodup
        ∧ ((keyByOccurrence after).map Prod.fst).Nodup := by
    simp only [diff_eq_ok_iff, pairByKey_eq_ok]
    constructor
    . rintro ⟨_, _, ⟨hbefore, hafter, _⟩, _⟩
      exact ⟨hbefore, hafter⟩
    . intro ⟨hbefore, hafter⟩
      exact ⟨_, _, ⟨hbefore, hafter, rfl⟩, rfl⟩
  rw [hpairs, nodup_keyByOccurrence_iff, nodup_keyByOccurrence_iff, keysTellNames_iff,
    keysTellNames_iff, and_self, and_self]

def ClashFree (before after : List DuplicateData) : Prop :=
  ∀ counted ∈ [before, after], ∀ items ∈ [before, after], ¬Clashes counted items

theorem clashFree_iff
    : ClashFree before after
        ↔ (¬Clashes before before ∧ ¬Clashes after after)
          ∧ KeysTellNames (keyByOccurrence before) (keyByOccurrence after) := by
  unfold ClashFree
  rw [keysTellNames_iff]
  simp only [List.forall_mem_cons, List.not_mem_nil, false_implies, implies_true, and_true]
  constructor
  . intro ⟨⟨hbefore, hba⟩, hab, hafter⟩
    exact ⟨⟨hbefore, hafter⟩, hba, hab⟩
  . intro ⟨⟨hbefore, hafter⟩, hba, hab⟩
    exact ⟨⟨hbefore, hba⟩, hab, hafter⟩

theorem diff_in_order_iff (before after : List DuplicateData)
    : ((∃ diffs, DuplicateData.diff before after = .ok diffs)
          ↔ ¬Clashes before before ∧ ¬Clashes after after)
        ∧ ((∃ diffs, DuplicateData.diff before after = .ok diffs ∧ JoinOneName diffs)
            ↔ ClashFree before after)
        ∧ ((∃ diffs, DuplicateData.diff before after = .ok diffs
              ∧ PairsInOrder before after diffs)
            ↔ ClashFree before after) := by
  have hclashFree {diffs : List (Diff DuplicateData)}
      (h : DuplicateData.diff before after = .ok diffs) (hjoin : JoinOneName diffs)
      : ClashFree before after :=
    clashFree_iff.2 ⟨exists_diff_iff.1 ⟨diffs, h⟩, keysTellNames_of_joinOneName h hjoin⟩
  have horder (h : ClashFree before after)
      : ∃ diffs, DuplicateData.diff before after = .ok diffs
        ∧ PairsInOrder before after diffs := by
    have ⟨hsides, htell⟩ := clashFree_iff.1 h
    obtain ⟨diffs, hdiffs⟩ := exists_diff_iff.2 hsides
    exact ⟨diffs, hdiffs, pairsInOrder_of_keysTellNames hdiffs htell⟩
  refine ⟨exists_diff_iff, ⟨?_, ?_⟩, ?_, horder⟩
  . intro ⟨diffs, hdiffs, hjoin⟩
    exact hclashFree hdiffs hjoin
  . intro h
    obtain ⟨diffs, hdiffs, hpaired⟩ := horder h
    exact ⟨diffs, hdiffs, hpaired.oneName⟩
  . intro ⟨diffs, hdiffs, hpaired⟩
    exact hclashFree hdiffs hpaired.oneName

def copiedTwice (name : String) (rva : Nat) : DuplicateData where
  symbol := { name, rva, size := 8, virtualSize := 8, compiland := "a.obj" }
  referencedIn := ["a.obj", "b.obj"]
  totalSize := 16
  totalVirtualSize := 16
  wastedSize := 8

theorem diff_numbered_name
    : DuplicateData.diff [copiedTwice "x" 1, copiedTwice "x" 2, copiedTwice "x#2" 3] []
          = .error (.duplicateName .before "x#2")
        ∧ DuplicateData.diff [copiedTwice "x" 1, copiedTwice "x" 2] [copiedTwice "x#2" 3]
          = .ok [.beforeOnly (copiedTwice "x" 1),
            .both (copiedTwice "x" 2) (copiedTwice "x#2" 3)] := by
  decide

end Pairing

end DuplicateData
end Footprint
