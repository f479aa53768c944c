import Footprint.Name.Generic
import Footprint.Proofs.FirstSeen
import Mathlib.Data.List.Induction

namespace Footprint.Name

def Piece.args : Piece → List (List Char)
  | arguments args => args
  | _ => []

def argumentsOf (ps : List Piece) : List (List Char) :=
  ps.flatMap Piece.args

def usedBy (args : List (List Char)) : Nat :=
  (firstSeen (args.filter (· ≠ []))).length + args.count []

def numberAmong (args : List (List Char)) (arg : List Char) : Nat :=
  1 + usedBy (args.takeWhile (· ≠ arg))

def writeAmong (args : List (List Char)) (arg : List Char) : List Char :=
  if arg = [] then [] else placeholder (numberAmong args arg)

def Piece.rename (f : List Char → List Char) : Piece → Piece
  | arguments args => arguments (args.map f)
  | piece => piece

section Counting

variable {args : List (List Char)} {arg : List Char}

theorem usedBy_append_blank (args : List (List Char))
    : usedBy (args ++ [[]]) = usedBy args + 1 := by
  unfold usedBy
  simp [Nat.add_assoc]

theorem usedBy_append_of_mem (hne : arg ≠ []) (h : arg ∈ args)
    : usedBy (args ++ [arg]) = usedBy args := by
  unfold usedBy
  rw [List.filter_append, List.filter_singleton, List.count_append]
  simp [hne, h, firstSeen_append_singleton]

theorem usedBy_append_of_not_mem (hne : arg ≠ []) (h : arg ∉ args)
    : usedBy (args ++ [arg]) = usedBy args + 1 := by
  unfold usedBy
  rw [List.filter_append, List.filter_singleton, List.count_append]
  simp [hne, h, firstSeen_append_singleton, Nat.add_right_comm]

theorem takeWhile_append_of_mem (h : arg ∈ args) (more : List (List Char))
    : (args ++ more).takeWhile (· ≠ arg) = args.takeWhile (· ≠ arg) := by
  induction args with
  | nil => cases h
  | cons first args ih =>
    rw [List.cons_append, List.takeWhile_cons, List.takeWhile_cons]
    by_cases hfirst : first = arg
    . simp [hfirst]
    . rw [ih ((List.mem_cons.1 h).resolve_left (Ne.symm hfirst))]

theorem numberAmong_append_of_mem (h : arg ∈ args) (more : List (List Char))
    : numberAmong (args ++ more) arg = numberAmong args arg := by
  unfold numberAmong
  rw [takeWhile_append_of_mem h]

theorem numberAmong_append_self (h : arg ∉ args)
    : numberAmong (args ++ [arg]) arg = usedBy args + 1 := by
  have hbefore : ∀ other ∈ args, decide (other ≠ arg) = true := by
    intro other hother
    rw [decide_eq_true_iff]
    rintro rfl
    exact h hother
  unfold numberAmong
  rw [List.takeWhile_append_of_pos hbefore, List.takeWhile_cons_of_neg (by simp), List.append_nil,
    Nat.add_comm]

theorem usedBy_le_append_singleton (args : List (List Char)) (arg : List Char)
    : usedBy args ≤ usedBy (args ++ [arg]) := by
  by_cases hblank : arg = []
  . rw [hblank, usedBy_append_blank]
    exact Nat.le_succ _
  . by_cases hmem : arg ∈ args
    . exact Nat.le_of_eq (usedBy_append_of_mem hblank hmem).symm
    . rw [usedBy_append_of_not_mem hblank hmem]
      exact Nat.le_succ _

theorem numberAmong_le_usedBy (hne : arg ≠ []) (h : arg ∈ args)
    : numberAmong args arg ≤ usedBy args := by
  induction args using List.reverseRecOn with
  | nil => cases h
  | append_singleton args last ih =>
    by_cases hmem : arg ∈ args
    . rw [numberAmong_append_of_mem hmem]
      exact Nat.le_trans (ih hmem) (usedBy_le_append_singleton args last)
    . obtain rfl : arg = last := by simpa [hmem] using h
      apply Nat.le_of_eq
      rw [numberAmong_append_self hmem, usedBy_append_of_not_mem hne hmem]

theorem numberAmong_inj {other : List Char} (hne : arg ≠ []) (hne' : other ≠ []) (h : arg ∈ args)
    (h' : other ∈ args) (heq : numberAmong args arg = numberAmong args other)
    : arg = other := by
  -- Of two texts, the one that is seen last has a number that is not used up before.
  have hlater {args : List (List Char)} {arg last : List Char} (hne : arg ≠ []) (h : arg ∈ args)
      (hlast : last ∉ args)
      : numberAmong (args ++ [last]) arg < numberAmong (args ++ [last]) last := by
    rw [numberAmong_append_of_mem h, numberAmong_append_self hlast]
    exact Nat.lt_succ_of_le (numberAmong_le_usedBy hne h)
  induction args using List.reverseRecOn with
  | nil => cases h
  | append_singleton args last ih =>
    by_cases hmem : arg ∈ args
    . by_cases hmem' : other ∈ args
      . rw [numberAmong_append_of_mem hmem, numberAmong_append_of_mem hmem'] at heq
        exact ih hmem hmem' heq
      . obtain rfl : other = last := by simpa [hmem'] using h'
        exact absurd heq (Nat.ne_of_lt (hlater hne hmem hmem'))
    . obtain rfl : arg = last := by simpa [hmem] using h
      by_cases hmem' : other ∈ args
      . exact absurd heq.symm (Nat.ne_of_lt (hlater hne' hmem' hmem))
      . have hlast : other = arg := by simpa [hmem'] using h'
        exact hlast.symm

end Counting

namespace Numbering

variable {n : Numbering} {args : List (List Char)} {arg : List Char}

structure Numbers (n : Numbering) (args : List (List Char)) : Prop where
  used_eq : n.used = usedBy args
  lookup_eq (arg : List Char)
    : n.assigned.lookup arg = if arg ≠ [] ∧ arg ∈ args then some (numberAmong args arg) else none

theorem numbers_empty : Numbers empty [] where
  used_eq := by rfl
  lookup_eq arg := by simp [empty]

theorem Numbers.see_blank (h : Numbers n args) : Numbers (n.see []) (args ++ [[]]) := by
  have hsee : n.see [] = { n with used := n.used + 1 } := by
    unfold see
    simp [h.lookup_eq]
  rw [hsee]
  constructor
  . rw [usedBy_append_blank, h.used_eq]
  . intro other
    by_cases hother : other ∈ args
    . simp [h.lookup_eq, hother, numberAmong_append_of_mem hother]
    . simp [h.lookup_eq, hother]

theorem Numbers.see_again (h : Numbers n args) (hne : arg ≠ []) (hseen : arg ∈ args)
    : Numbers (n.see arg) (args ++ [arg]) := by
  have hsee : n.see arg = n := by
    unfold see
    simp [h.lookup_eq, hne, hseen]
  rw [hsee]
  constructor
  . rw [usedBy_append_of_mem hne hseen, h.used_eq]
  . intro other
    by_cases hother : other ∈ args
    . simp [h.lookup_eq, hother, numberAmong_append_of_mem hother]
    . have hself : other ≠ arg := fun heq => hother (heq ▸ hseen)
      simp [h.lookup_eq, hother, hself]

theorem Numbers.see_new (h : Numbers n args) (hne : arg ≠ []) (hnew : arg ∉ args)
    : Numbers (n.see arg) (args ++ [arg]) := by
  have hsee : n.see arg
      = { assigned := n.assigned ++ [(arg, n.used + 1)], used := n.used + 1 } := by
    unfold see
    simp [h.lookup_eq, hne, hnew]
  rw [hsee]
  constructor
  . rw [usedBy_append_of_not_mem hne hnew, h.used_eq]
  . intro other
    rw [List.lookup_append, h.lookup_eq]
    by_cases hself : other = arg
    . subst hself
      simp [hne, hnew, h.used_eq, numberAmong_append_self hnew]
    . have hlast : [(arg, n.used + 1)].lookup other = none := by
        rw [List.lookup_cons, beq_eq_false_iff_ne.2 hself, List.lookup_nil]
      rw [hlast, Option.or_none]
      by_cases hother : other ∈ args
      . simp [hother, numberAmong_append_of_mem hother]
      . simp [hother, hself]

theorem Numbers.see (h : Numbers n args) (arg : List Char)
    : Numbers (n.see arg) (args ++ [arg]) := by
  by_cases hblank : arg = []
  . subst hblank
    exact h.see_blank
  . by_cases hseen : arg ∈ args
    . exact h.see_again hblank hseen
    . exact h.see_new hblank hseen

theorem Numbers.foldl_see (h : Numbers n args) (more : List (List Char))
    : Numbers (more.foldl Numbering.see n) (args ++ more) := by
  induction more generalizing n args with
  | nil =>
    rw [List.append_nil]
    exact h
  | cons arg more ih =>
    rw [List.append_cons]
    exact ih (h.see arg)

theorem seePieces_eq_foldl (n : Numbering) (ps : List Piece)
    : n.seePieces ps = (argumentsOf ps).foldl Numbering.see n := by
  induction ps generalizing n with
  | nil => rfl
  | cons piece ps ih =>
    show (n.seePiece piece).seePieces ps = (piece.args ++ argumentsOf ps).foldl Numbering.see n
    rw [ih, List.foldl_append]
    cases piece <;> rfl

theorem numbers_ofPieces (ps : List Piece) : Numbers (ofPieces ps) (argumentsOf ps) := by
  unfold ofPieces
  rw [seePieces_eq_foldl]
  exact numbers_empty.foldl_see _

theorem Numbers.write_eq (h : Numbers n args) (hmem : arg ∈ args)
    : n.write arg = writeAmong args arg := by
  unfold write writeAmong
  rw [h.lookup_eq]
  by_cases hblank : arg = []
  . simp [hblank]
  . simp [hblank, hmem]

end Numbering

section Renaming

variable {f : List Char → List Char} {args : List (List Char)} {arg : List Char}

/-- Whether other texts stand for some arguments: distinct ones, and none for a blank. -/
structure IsRenaming (f : List Char → List Char) (args : List (List Char)) : Prop where
  distinct : ∀ arg ∈ args, ∀ other ∈ args, f arg = f other → arg = other
  blank : ∀ arg ∈ args, f arg = [] ↔ arg = []

theorem IsRenaming.mono {fewer : List (List Char)} (h : IsRenaming f args) (hsub : fewer ⊆ args)
    : IsRenaming f fewer where
  distinct arg harg other hother := h.distinct arg (hsub harg) other (hsub hother)
  blank arg harg := h.blank arg (hsub harg)

theorem firstSeen_map {texts : List (List Char)}
    (h : ∀ arg ∈ texts, ∀ other ∈ texts, f arg = f other → arg = other)
    : firstSeen (texts.map f) = (firstSeen texts).map f := by
  induction texts with
  | nil => rfl
  | cons first texts ih =>
    have htail : ∀ arg ∈ texts, ∀ other ∈ texts, f arg = f other → arg = other :=
      fun arg harg other hother => h arg (.tail _ harg) other (.tail _ hother)
    rw [List.map_cons, firstSeen_cons, firstSeen_cons, ih htail, List.map_cons, List.filter_map]
    congr 2
    apply List.filter_congr
    intro arg harg
    have hfirst := h arg (.tail _ (mem_firstSeen.1 harg)) first (.head _)
    rw [Function.comp_apply, decide_eq_decide]
    exact not_congr ⟨hfirst, congrArg f⟩

theorem usedBy_map (h : IsRenaming f args) : usedBy (args.map f) = usedBy args := by
  have hblank : args.filter ((fun arg => decide (arg ≠ [])) ∘ f) = args.filter (· ≠ []) := by
    apply List.filter_congr
    intro arg harg
    rw [Function.comp_apply, decide_eq_decide]
    exact not_congr (h.blank arg harg)
  have hcount : (args.map f).count [] = args.count [] := by
    rw [List.count_eq_countP, List.count_eq_countP, List.countP_map]
    apply List.countP_congr
    intro arg harg
    simp [h.blank arg harg]
  have htexts := h.mono (List.filter_sublist (p := fun arg => decide (arg ≠ []))).subset
  unfold usedBy
  rw [List.filter_map, hblank, hcount, firstSeen_map htexts.distinct, List.length_map]

theorem takeWhile_map_ne (h : ∀ other ∈ args, f other = f arg → other = arg)
    : (args.map f).takeWhile (· ≠ f arg) = (args.takeWhile (· ≠ arg)).map f := by
  induction args with
  | nil => rfl
  | cons first args ih =>
    rw [List.forall_mem_cons] at h
    rw [List.map_cons, List.takeWhile_cons, List.takeWhile_cons]
    by_cases hfirst : first = arg
    . simp [hfirst]
    . have hne : f first ≠ f arg := fun heq => hfirst (h.1 heq)
      simp only [hne, hfirst, ne_eq, not_false_eq_true, decide_true, if_true, ih h.2,
        List.map_cons]

theorem numberAmong_map (h : IsRenaming f args) (hmem : arg ∈ args)
    : numberAmong (args.map f) (f arg) = numberAmong args arg := by
  unfold numberAmong
  rw [takeWhile_map_ne fun other hother => h.distinct other hother arg hmem,
    usedBy_map (h.mono (List.takeWhile_sublist _).subset)]

theorem writeAmong_map (h : IsRenaming f args) (hmem : arg ∈ args)
    : writeAmong (args.map f) (f arg) = writeAmong args arg := by
  unfold writeAmong
  simp only [h.blank arg hmem, numberAmong_map h hmem]

theorem isAlphanum_of_mem_placeholder {number : Nat} {c : Char} (h : c ∈ placeholder number)
    : c.isAlphanum := by
  rcases List.mem_cons.1 h with rfl | hdigit
  . rfl
  . have hc := Nat.isDigit_of_mem_toDigits (by decide) (by decide) hdigit
    rw [Char.isAlphanum, hc, Bool.or_true]

theorem placeholder_inj {number number' : Nat} (h : placeholder number = placeholder number')
    : number = number' := by
  have hdigits : Nat.toDigits 10 number = Nat.toDigits 10 number' := (List.cons.inj h).2
  rw [← Nat.ofDigitChars_ten_toDigits (n := number), hdigits, Nat.ofDigitChars_ten_toDigits]

theorem isRenaming_writeAmong (args : List (List Char)) : IsRenaming (writeAmong args) args where
  distinct arg harg other hother h := by
    unfold writeAmong at h
    split at h
    . next hblank =>
      split at h
      . next hblank' => rw [hblank, hblank']
      . cases h
    . next hne =>
      split at h
      . cases h
      . next hne' => exact numberAmong_inj hne hne' harg hother (placeholder_inj h)
  blank arg _ := by
    unfold writeAmong
    split
    . next hblank => simp [hblank]
    . next hne => simp [hne, placeholder]

end Renaming

section Pieces

variable {f g g' : List Char → List Char} {ps : List Piece} {piece : Piece}

def Piece.writeWith (g : List Char → List Char) : Piece → List Char
  | plain c => [c]
  | scope => [':', ':']
  | arguments args => '<' :: List.intercalate [','] (args.map g) ++ ['>']

theorem write_eq_writeWith (n : Numbering) (piece : Piece)
    : piece.write n = piece.writeWith n.write := by
  cases piece <;> rfl

theorem writeWith_congr (h : ∀ arg ∈ piece.args, g arg = g' arg)
    : piece.writeWith g = piece.writeWith g' := by
  cases piece with
  | plain c => rfl
  | scope => rfl
  | arguments args =>
    have hargs : args.map g = args.map g' := List.map_congr_left h
    unfold Piece.writeWith
    dsimp only
    rw [hargs]

theorem writeWith_rename (f g : List Char → List Char) (piece : Piece)
    : (piece.rename f).writeWith g = piece.writeWith (g ∘ f) := by
  cases piece with
  | plain c => rfl
  | scope => rfl
  | arguments args =>
    unfold Piece.rename Piece.writeWith
    dsimp only
    rw [List.map_map]

theorem args_subset_argumentsOf (h : piece ∈ ps) : piece.args ⊆ argumentsOf ps := by
  intro arg harg
  exact List.mem_flatMap.2 ⟨piece, h, harg⟩

theorem argumentsOf_rename (f : List Char → List Char) (ps : List Piece)
    : argumentsOf (ps.map (Piece.rename f)) = (argumentsOf ps).map f := by
  unfold argumentsOf
  rw [List.flatMap_map, List.map_flatMap]
  congr 1
  funext piece
  cases piece <;> rfl

theorem mem_of_mem_dropLeadingScope (h : piece ∈ dropLeadingScope ps) : piece ∈ ps := by
  unfold dropLeadingScope at h
  split at h
  . split at h
    . exact h
    . exact List.mem_cons_of_mem _ h
  . exact h

theorem dropLeadingScope_of_ne {ps : List Piece} (h : ∀ rest, ps ≠ .scope :: rest)
    : dropLeadingScope ps = ps := by
  unfold dropLeadingScope
  split
  . exact absurd rfl (h _)
  . rfl

theorem writePieces_eq (ps : List Piece)
    : writePieces ps
        = (dropLeadingScope ps).flatMap (Piece.writeWith (writeAmong (argumentsOf ps))) := by
  apply List.flatMap_congr
  intro piece hpiece
  rw [write_eq_writeWith]
  apply writeWith_congr
  intro arg harg
  apply (Numbering.numbers_ofPieces ps).write_eq
  exact args_subset_argumentsOf (mem_of_mem_dropLeadingScope hpiece) harg

theorem scope_mem_map_rename (f : List Char → List Char) (ps : List Piece)
    : .scope ∈ ps.map (Piece.rename f) ↔ .scope ∈ ps := by
  rw [List.mem_map]
  constructor
  . rintro ⟨piece, hmem, hpiece⟩
    cases piece with
    | scope => exact hmem
    | plain c => cases hpiece
    | arguments args => cases hpiece
  . exact fun h => ⟨_, h, rfl⟩

theorem dropLeadingScope_map_rename (f : List Char → List Char) (ps : List Piece)
    : dropLeadingScope (ps.map (Piece.rename f)) = (dropLeadingScope ps).map (Piece.rename f) := by
  cases ps with
  | nil => rfl
  | cons piece ps =>
    cases piece with
    | plain c => rfl
    | arguments args => rfl
    | scope =>
      show (if _ ∈ ps.map _ then _ else _) = (if _ ∈ ps then _ else _ : List _).map _
      rw [apply_ite (List.map _)]
      simp only [scope_mem_map_rename]
      rfl

theorem writePieces_rename (h : IsRenaming f (argumentsOf ps))
    : writePieces (ps.map (Piece.rename f)) = writePieces ps := by
  rw [writePieces_eq, writePieces_eq, dropLeadingScope_map_rename, argumentsOf_rename,
    List.flatMap_map]
  apply List.flatMap_congr
  intro piece hpiece
  rw [writeWith_rename]
  apply writeWith_congr
  intro arg harg
  apply writeAmong_map h
  exact args_subset_argumentsOf (mem_of_mem_dropLeadingScope hpiece) harg

end Pieces

end Footprint.Name
