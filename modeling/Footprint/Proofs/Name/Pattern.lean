import Footprint.Name.Generic
import Mathlib.Data.List.TakeWhile
import Mathlib.Logic.Function.Basic

namespace Footprint.Name

open Footprint.Text

def closes (depth : Nat) : List Char → Bool
  | [] => depth = 0
  | c :: cs =>
    if c = '<' then
      closes (depth + 1) cs
    else if c = '>' then
      match depth with
      | 0 => false
      | depth + 1 => closes depth cs
    else if c = ',' ∧ depth = 0 then
      false
    else
      closes depth cs

structure IsTypeName (name : List Char) : Prop where
  nonempty : name ≠ []
  trimmed : trim name = name
  closed : closes 0 name

instance (name : List Char) : Decidable (IsTypeName name) :=
  decidable_of_iff (name ≠ [] ∧ trim name = name ∧ closes 0 name)
    ⟨fun h => ⟨h.1, h.2.1, h.2.2⟩, fun h => ⟨h.nonempty, h.trimmed, h.closed⟩⟩

structure Assignment (ι : Type) where
  name : ι → List Char
  distinct : name.Injective
  isTypeName : ∀ i, IsTypeName (name i)

def Assignment.ofTypes {n : Nat} (types : Fin n → String)
    (distinct : ∀ i j, (types i).toList = (types j).toList → i = j := by decide)
    (isTypeName : ∀ i, IsTypeName (types i).toList := by decide) : Assignment (Fin n) where
  name i := (types i).toList
  distinct _ _ := distinct _ _
  isTypeName := isTypeName

structure Slot (ι : Type) where
  before : List Char := []
  parameter : Option ι
  after : List Char := []
  blank : (before ++ after).all isBlank := by decide

def argument {ι : Type} (σ : ι → List Char) (parameter : Option ι) : List Char :=
  parameter.elim [] σ

inductive NamePart (ι : Type) where
  | char (c : Char) (isOutside : c ≠ '<' := by decide)
  | arguments (first : Slot ι) (more : List (Slot ι))

inductive NamePiece (ι : Type) where
  | plain (c : Char)
  | scope
  | arguments (parameters : List (Option ι))
  deriving DecidableEq, Repr

variable {ι : Type}

def NamePart.parameters : NamePart ι → List ι
  | char _ _ => []
  | arguments first more => (first :: more).filterMap (·.parameter)

def NamePiece.parameters : NamePiece ι → List (Option ι)
  | arguments parameters => parameters
  | _ => []

def Slot.write (σ : ι → List Char) (s : Slot ι) : List Char :=
  s.before ++ argument σ s.parameter ++ s.after

def NamePart.write (σ : ι → List Char) : NamePart ι → List Char
  | char c _ => [c]
  | arguments first more =>
    '<' :: List.intercalate [','] ((first :: more).map (Slot.write σ)) ++ ['>']

def writeName (σ : ι → List Char) (name : List (NamePart ι)) : List Char :=
  name.flatMap (NamePart.write σ)

def NamePiece.fill (σ : ι → List Char) : NamePiece ι → Piece
  | plain c => .plain c
  | scope => .scope
  | arguments parameters => .arguments (parameters.map (argument σ))

def readParts : List (NamePart ι) → List (NamePiece ι)
  | [] => []
  | .char ':' _ :: .char ':' _ :: parts => .scope :: readParts parts
  | .char c _ :: parts => .plain c :: readParts parts
  | .arguments first more :: parts =>
    .arguments ((first :: more).map (·.parameter)) :: readParts parts

section Reading

variable {depth : Nat} {arg : List Char} {finished : List (List Char)} {c : Char}
  {text rest : List Char}

theorem inside_open : inside depth arg finished ('<' :: rest)
    = inside (depth + 1) ('<' :: arg) finished rest := by
  rw [inside.eq_def]
  rfl

theorem inside_close : inside (depth + 1) arg finished ('>' :: rest)
    = inside depth ('>' :: arg) finished rest := by
  rw [inside.eq_def]
  rfl

theorem inside_end : inside 0 arg finished ('>' :: rest)
    = .arguments (trim arg.reverse :: finished).reverse :: outside rest := by
  rw [inside.eq_def]
  rfl

theorem inside_comma : inside 0 arg finished (',' :: rest)
    = inside 0 [] (trim arg.reverse :: finished) rest := by
  rw [inside.eq_def]
  rfl

theorem inside_other (hopen : c ≠ '<') (hclose : c ≠ '>') (hcomma : ¬(c = ',' ∧ depth = 0))
    : inside depth arg finished (c :: rest) = inside depth (c :: arg) finished rest := by
  rw [inside.eq_def]
  dsimp only
  rw [if_neg hopen, if_neg hclose, if_neg hcomma]

theorem inside_of_closes (h : closes depth text)
    : inside depth arg finished (text ++ rest)
        = inside 0 (text.reverse ++ arg) finished rest := by
  fun_induction closes depth text generalizing arg with
  | case1 depth =>
    obtain rfl := of_decide_eq_true h
    rfl
  | case2 depth cs ih =>
    rw [List.cons_append, inside_open, ih h, List.reverse_cons, List.append_assoc]
    rfl
  | case3 => cases h
  | case4 cs _ depth ih =>
    rw [List.cons_append, inside_close, ih h, List.reverse_cons, List.append_assoc]
    rfl
  | case5 => cases h
  | case6 depth c cs hopen hclose hcomma ih =>
    rw [List.cons_append, inside_other hopen hclose hcomma, ih h, List.reverse_cons,
      List.append_assoc]
    rfl

theorem closes_append (h : closes depth text) (hrest : closes 0 rest)
    : closes depth (text ++ rest) := by
  fun_induction closes depth text with
  | case1 depth =>
    obtain rfl := of_decide_eq_true h
    exact hrest
  | case2 depth cs ih =>
    exact ih h
  | case3 => cases h
  | case4 cs _ depth ih => exact ih h
  | case5 => cases h
  | case6 depth c cs hopen hclose hcomma ih =>
    rw [List.cons_append, closes.eq_def]
    dsimp only
    rw [if_neg hopen, if_neg hclose, if_neg hcomma]
    exact ih h

theorem closes_of_no_mark (h : ∀ c ∈ text, c ≠ '<' ∧ c ≠ '>' ∧ c ≠ ',') : closes 0 text := by
  induction text with
  | nil => rfl
  | cons c cs ih =>
    rw [List.forall_mem_cons] at h
    rw [closes.eq_def]
    dsimp only
    rw [if_neg h.1.1, if_neg h.1.2.1, if_neg fun hcomma => h.1.2.2 hcomma.1]
    exact ih h.2

theorem closes_of_blank (h : ∀ c ∈ text, isBlank c) : closes 0 text := by
  apply closes_of_no_mark
  intro c hc
  have hnot (mark : Char) (hmark : isBlank mark = false) : c ≠ mark := by
    rintro rfl
    rw [h c hc] at hmark
    cases hmark
  exact ⟨hnot '<' rfl, hnot '>' rfl, hnot ',' rfl⟩

theorem inside_arguments (first : List Char) (more : List (List Char))
    (h : ∀ arg ∈ first :: more, closes 0 arg)
    : inside 0 [] finished (List.intercalate [','] (first :: more) ++ '>' :: rest)
        = .arguments (finished.reverse ++ (first :: more).map trim) :: outside rest := by
  induction more generalizing first finished with
  | nil =>
    rw [List.intercalate_singleton, inside_of_closes (h first (.head _)), inside_end,
      List.append_nil, List.reverse_reverse, List.reverse_cons]
    rfl
  | cons second more ih =>
    rw [List.intercalate_cons_cons, List.append_assoc, List.append_assoc,
      inside_of_closes (h first (.head _)), List.singleton_append, inside_comma, List.append_nil,
      List.reverse_reverse, ih second fun arg harg => h arg (.tail _ harg), List.reverse_cons,
      List.append_assoc]
    rfl

theorem outside_arguments {args : List (List Char)} (hne : args ≠ [])
    (h : ∀ arg ∈ args, closes 0 arg) (rest : List Char)
    : outside ('<' :: List.intercalate [','] args ++ '>' :: rest)
        = .arguments (args.map trim) :: outside rest := by
  cases args with
  | nil => contradiction
  | cons first more =>
    rw [List.cons_append, outside]
    exact inside_arguments first more h

theorem trim_append_of_blank {before after : List Char} (hbefore : ∀ c ∈ before, isBlank c)
    (hafter : ∀ c ∈ after, isBlank c)
    : trim (before ++ text ++ after) = trim text := by
  unfold trim
  rw [List.append_assoc, List.dropWhile_append_of_pos hbefore, List.dropWhile_append]
  split
  . next hempty =>
    rw [List.isEmpty_iff.1 hempty, List.dropWhile_eq_nil_iff.2 hafter]
  . rw [List.reverse_append, List.dropWhile_append_of_pos]
    intro c hc
    exact hafter c (List.mem_reverse.1 hc)

variable (σ : Assignment ι)

theorem trim_slot (s : Slot ι) : trim (s.write σ.name) = argument σ.name s.parameter := by
  have hblank := List.forall_mem_append.1 (List.all_eq_true.1 s.blank)
  unfold Slot.write
  rw [trim_append_of_blank hblank.1 hblank.2]
  cases s.parameter with
  | none => rfl
  | some i => exact (σ.isTypeName i).trimmed

theorem closes_slot (s : Slot ι) : closes 0 (s.write σ.name) := by
  have hblank := List.forall_mem_append.1 (List.all_eq_true.1 s.blank)
  apply closes_append _ (closes_of_blank hblank.2)
  apply closes_append (closes_of_blank hblank.1)
  cases s.parameter with
  | none => rfl
  | some i => exact (σ.isTypeName i).closed

theorem inside_slots (first : Slot ι) (more : List (Slot ι))
    : inside 0 [] finished
        (List.intercalate [','] ((first :: more).map (Slot.write σ.name)) ++ '>' :: rest)
        = .arguments (finished.reverse
          ++ (first :: more).map fun s => argument σ.name s.parameter) :: outside rest := by
  have hclosed : ∀ arg ∈ (first :: more).map (Slot.write σ.name), closes 0 arg := by
    intro arg harg
    obtain ⟨s, _, rfl⟩ := List.mem_map.1 harg
    exact closes_slot σ s
  have htrim : trim ∘ Slot.write σ.name = fun s => argument σ.name s.parameter := by
    funext s
    exact trim_slot σ s
  rw [List.map_cons] at hclosed ⊢
  rw [inside_arguments _ _ hclosed, ← List.map_cons, List.map_map, htrim]

theorem outside_plain {c : Char} (hopen : c ≠ '<') (hscope : ∀ cs, ¬(c = ':' ∧ rest = ':' :: cs))
    : outside (c :: rest) = .plain c :: outside rest := by
  rw [outside.eq_def]
  split
  . next h => cases h
  . next h => exact absurd (List.cons.inj h).1 hopen
  . next h => exact absurd (List.cons.inj h) (hscope _)
  . next h =>
    cases h
    rfl

theorem exists_of_writeName_eq {parts : List (NamePart ι)}
    (h : writeName σ.name parts = ':' :: rest)
    : ∃ parts', parts = .char ':' :: parts' := by
  cases parts with
  | nil => cases h
  | cons part parts =>
    cases part with
    | char c hc =>
      obtain rfl : c = ':' := (List.cons.inj h).1
      exact ⟨parts, rfl⟩
    | arguments first more => cases (List.cons.inj h).1

theorem pieces_writeName (name : List (NamePart ι))
    : pieces (writeName σ.name name) = (readParts name).map (NamePiece.fill σ.name) := by
  unfold pieces
  fun_induction readParts name with
  | case1 => rfl
  | case2 _ _ parts ih =>
    rw [List.map_cons, ← ih]
    rfl
  | case3 c hopen parts hscope ih =>
    rw [List.map_cons, ← ih]
    apply outside_plain hopen
    -- What follows begins with a colon only if the next part is one, which is another case.
    rintro cs ⟨hc, hcs⟩
    obtain ⟨parts', hparts⟩ := exists_of_writeName_eq σ hcs
    exact hscope _ parts' hparts hc
  | case4 first more parts ih =>
    rw [List.map_cons, ← ih]
    show outside (('<' :: List.intercalate [','] _ ++ ['>']) ++ writeName σ.name parts) = _
    rw [List.append_assoc, List.cons_append, outside, List.singleton_append, inside_slots σ]
    rw [NamePiece.fill, List.map_map]
    rfl

theorem some_mem_parameters {name : List (NamePart ι)} {i : ι}
    (h : i ∈ name.flatMap NamePart.parameters)
    : some i ∈ (readParts name).flatMap NamePiece.parameters := by
  fun_induction readParts name with
  | case1 => cases h
  | case2 _ _ parts ih => exact ih h
  | case3 _ _ parts _ ih => exact ih h
  | case4 first more parts ih =>
    rw [List.flatMap_cons, List.mem_append] at h ⊢
    rcases h with hhere | hlater
    . left
      obtain ⟨s, hs, hi⟩ := List.mem_filterMap.1 hhere
      exact List.mem_map.2 ⟨s, hs, hi⟩
    . exact .inr (ih hlater)

end Reading

structure ParameterNumbering (ι : Type) where
  assigned : List (ι × Nat)
  used : Nat

namespace ParameterNumbering

variable [DecidableEq ι]

def empty : ParameterNumbering ι where
  assigned := []
  used := 0

def see (n : ParameterNumbering ι) : Option ι → ParameterNumbering ι
  | none => { n with used := n.used + 1 }
  | some i =>
    if (n.assigned.lookup i).isSome then n
    else { assigned := n.assigned ++ [(i, n.used + 1)], used := n.used + 1 }

def ofPieces (ps : List (NamePiece ι)) : ParameterNumbering ι :=
  (ps.flatMap NamePiece.parameters).foldl see empty

def write (n : ParameterNumbering ι) (parameter : Option ι) : List Char :=
  (parameter.bind (n.assigned.lookup ·)).elim [] placeholder

def fill (σ : ι → List Char) (n : ParameterNumbering ι) : Numbering where
  assigned := n.assigned.map fun e => (σ e.1, e.2)
  used := n.used

variable {n : ParameterNumbering ι}

theorem nodup_see (h : (n.assigned.map Prod.fst).Nodup) (parameter : Option ι)
    : ((n.see parameter).assigned.map Prod.fst).Nodup := by
  cases parameter with
  | none => exact h
  | some i =>
    unfold see
    dsimp only
    split
    . exact h
    . next hnew =>
      rw [Option.not_isSome_iff_eq_none, List.lookup_eq_none_iff] at hnew
      rw [List.map_append, List.nodup_append]
      refine ⟨h, List.nodup_cons.2 ⟨List.not_mem_nil, List.nodup_nil⟩, ?_⟩
      rintro _ hmem _ hi rfl
      obtain ⟨e, he, rfl⟩ := List.mem_map.1 hmem
      have hne := hnew e he
      rw [List.map_singleton, List.mem_singleton] at hi
      rw [hi, bne_self_eq_false] at hne
      cases hne

theorem nodup_foldl_see (h : (n.assigned.map Prod.fst).Nodup) (parameters : List (Option ι))
    : ((parameters.foldl see n).assigned.map Prod.fst).Nodup := by
  induction parameters generalizing n with
  | nil => exact h
  | cons parameter parameters ih => exact ih (nodup_see h parameter)

theorem isSome_lookup_see (i : ι) : ((n.see (some i)).assigned.lookup i).isSome := by
  unfold see
  dsimp only
  split
  . assumption
  . rw [List.lookup_append, Option.isSome_or]
    simp

theorem isSome_lookup_see_of {i : ι} (h : (n.assigned.lookup i).isSome) (parameter : Option ι)
    : ((n.see parameter).assigned.lookup i).isSome := by
  cases parameter with
  | none => exact h
  | some j =>
    unfold see
    dsimp only
    split
    . exact h
    . rw [List.lookup_append, Option.isSome_or, h, Bool.true_or]

theorem isSome_lookup_foldl_see_of {i : ι} (h : (n.assigned.lookup i).isSome)
    (parameters : List (Option ι))
    : ((parameters.foldl see n).assigned.lookup i).isSome := by
  induction parameters generalizing n with
  | nil => exact h
  | cons parameter parameters ih => exact ih (isSome_lookup_see_of h parameter)

theorem isSome_lookup_foldl_see {parameters : List (Option ι)} {i : ι} (h : some i ∈ parameters)
    : ((parameters.foldl see n).assigned.lookup i).isSome := by
  induction parameters generalizing n with
  | nil => cases h
  | cons parameter parameters ih =>
    rcases List.mem_cons.1 h with rfl | hmem
    . exact isSome_lookup_foldl_see_of (isSome_lookup_see i) parameters
    . exact ih hmem

theorem nodup_ofPieces (ps : List (NamePiece ι)) : ((ofPieces ps).assigned.map Prod.fst).Nodup := by
  exact nodup_foldl_see (n := empty) List.nodup_nil _

theorem isSome_lookup_ofPieces {name : List (NamePart ι)} {i : ι}
    (h : i ∈ name.flatMap NamePart.parameters)
    : ((ofPieces (readParts name)).assigned.lookup i).isSome := by
  apply isSome_lookup_foldl_see
  exact some_mem_parameters h

end ParameterNumbering

namespace NamePiece

variable [DecidableEq ι]

def write (n : ParameterNumbering ι) : NamePiece ι → List Char
  | plain c => [c]
  | scope => [':', ':']
  | arguments parameters => '<' :: List.intercalate [','] (parameters.map n.write) ++ ['>']

def dropLeadingScope : List (NamePiece ι) → List (NamePiece ι)
  | .scope :: rest => if .scope ∈ rest then .scope :: rest else rest
  | ps => ps

def writePieces (ps : List (NamePiece ι)) : List Char :=
  (dropLeadingScope ps).flatMap (write (.ofPieces ps))

end NamePiece

section Numbering

variable [DecidableEq ι] (σ : Assignment ι) (n : ParameterNumbering ι)

theorem lookup_map_name (entries : List (ι × Nat)) (i : ι)
    : (entries.map fun e => (σ.name e.1, e.2)).lookup (σ.name i) = entries.lookup i := by
  induction entries with
  | nil => rfl
  | cons e entries ih =>
    have hkey : (σ.name i == σ.name e.1) = (i == e.1) := by
      rw [Bool.eq_iff_iff, beq_iff_eq, beq_iff_eq, σ.distinct.eq_iff]
    rw [List.map_cons, List.lookup_cons, List.lookup_cons, ih, hkey]

theorem lookup_argument (parameter : Option ι)
    : (n.fill σ.name).assigned.lookup (argument σ.name parameter)
        = parameter.bind (n.assigned.lookup ·) := by
  cases parameter with
  | some i => exact lookup_map_name σ n.assigned i
  | none =>
    show (n.assigned.map fun e => (σ.name e.1, e.2)).lookup [] = none
    rw [List.lookup_eq_none_iff]
    intro e he
    obtain ⟨e, _, rfl⟩ := List.mem_map.1 he
    exact bne_iff_ne.2 (σ.isTypeName e.1).nonempty.symm

theorem ParameterNumbering.fill_see (parameter : Option ι)
    : (n.see parameter).fill σ.name = (n.fill σ.name).see (argument σ.name parameter) := by
  cases parameter with
  | none =>
    have hlookup := lookup_argument σ n none
    unfold Numbering.see
    simp only [hlookup]
    rfl
  | some i =>
    have hlookup : (n.fill σ.name).assigned.lookup (σ.name i) = n.assigned.lookup i :=
      lookup_argument σ n (some i)
    have hnonempty : (σ.name i).isEmpty = false :=
      List.isEmpty_eq_false_iff.2 (σ.isTypeName i).nonempty
    show (n.see (some i)).fill σ.name = (n.fill σ.name).see (σ.name i)
    unfold Numbering.see see
    simp only [hlookup, hnonempty]
    split
    . rfl
    . show fill σ.name ⟨_, _⟩ = Numbering.mk _ _
      unfold fill
      rw [List.map_append]
      rfl

theorem ParameterNumbering.fill_foldl_see (parameters : List (Option ι))
    : (parameters.foldl see n).fill σ.name
        = (parameters.map (argument σ.name)).foldl Numbering.see (n.fill σ.name) := by
  induction parameters generalizing n with
  | nil => rfl
  | cons parameter parameters ih =>
    rw [List.foldl_cons, List.map_cons, List.foldl_cons, ih, fill_see]

theorem seePieces_fill (ps : List (NamePiece ι))
    : (n.fill σ.name).seePieces (ps.map (NamePiece.fill σ.name))
        = ((ps.flatMap NamePiece.parameters).foldl .see n).fill σ.name := by
  induction ps generalizing n with
  | nil => rfl
  | cons piece ps ih =>
    rw [List.flatMap_cons, List.foldl_append, ← ih]
    cases piece with
    | plain c => rfl
    | scope => rfl
    | arguments parameters =>
      rw [NamePiece.parameters, ParameterNumbering.fill_foldl_see]
      rfl

theorem ofPieces_fill (ps : List (NamePiece ι))
    : Numbering.ofPieces (ps.map (NamePiece.fill σ.name))
        = (ParameterNumbering.ofPieces ps).fill σ.name := by
  exact seePieces_fill σ .empty ps

theorem write_argument (parameter : Option ι)
    : (n.fill σ.name).write (argument σ.name parameter) = n.write parameter := by
  unfold Numbering.write ParameterNumbering.write
  rw [lookup_argument]
  cases parameter.bind (n.assigned.lookup ·) <;> rfl

theorem write_fill (piece : NamePiece ι)
    : (piece.fill σ.name).write (n.fill σ.name) = piece.write n := by
  cases piece with
  | plain c => rfl
  | scope => rfl
  | arguments parameters =>
    unfold NamePiece.fill Piece.write NamePiece.write
    dsimp only
    rw [List.map_map]
    congr 4
    funext parameter
    exact write_argument σ n parameter

omit [DecidableEq ι] in
theorem scope_mem_map_fill (ps : List (NamePiece ι))
    : Piece.scope ∈ ps.map (NamePiece.fill σ.name) ↔ NamePiece.scope ∈ ps := by
  rw [List.mem_map]
  constructor
  . rintro ⟨piece, hmem, hpiece⟩
    cases piece with
    | scope => exact hmem
    | plain c => cases hpiece
    | arguments parameters => cases hpiece
  . exact fun h => ⟨_, h, rfl⟩

theorem dropLeadingScope_fill (ps : List (NamePiece ι))
    : dropLeadingScope (ps.map (NamePiece.fill σ.name))
        = (NamePiece.dropLeadingScope ps).map (NamePiece.fill σ.name) := by
  cases ps with
  | nil => rfl
  | cons piece ps =>
    cases piece with
    | plain c => rfl
    | arguments parameters => rfl
    | scope =>
      show (if _ ∈ ps.map _ then _ else _) = (if _ ∈ ps then _ else _ : List _).map _
      rw [apply_ite (List.map _)]
      simp only [scope_mem_map_fill]
      rfl

theorem writePieces_fill (ps : List (NamePiece ι))
    : writePieces (ps.map (NamePiece.fill σ.name)) = NamePiece.writePieces ps := by
  unfold writePieces NamePiece.writePieces
  rw [dropLeadingScope_fill, ofPieces_fill, List.flatMap_map]
  congr 1
  funext piece
  exact write_fill σ _ piece

end Numbering

end Footprint.Name
