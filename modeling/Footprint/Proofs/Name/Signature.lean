import Footprint.Proofs.Name.Instances
import Footprint.Proofs.Name.Skeleton

namespace Footprint

namespace Name

def openAfter? (before : Nat) : List Char → Option Nat
  | [] => some before
  | c :: cs =>
    if c = '(' then
      openAfter? (before + 1) cs
    else if c = ')' then
      match before with
      | 0 => none
      | before + 1 => openAfter? before cs
    else
      openAfter? before cs

def ClosesParentheses (text : List Char) : Prop :=
  openAfter? 0 text = some 0

instance (text : List Char) : Decidable (ClosesParentheses text) :=
  inferInstanceAs (Decidable (_ = _))

structure HasClosedArguments (f : TemplatedFunction) : Prop where
  types : ∀ type ∈ f.argumentTypes, ClosesParentheses type.toList
  templateArguments : ∀ e ∈ (Numbering.ofPieces (pieces f.name.toList)).assigned,
    ClosesParentheses e.1

section Parentheses

variable {before after more : Nat} {text rest : List Char}

theorem openAfter?_append (before : Nat) (text rest : List Char)
    : openAfter? before (text ++ rest) = (openAfter? before text).bind (openAfter? · rest) := by
  fun_induction openAfter? before text with
  | case1 before => rfl
  | case2 before cs ih => exact ih
  | case3 cs => rfl
  | case4 cs before _ ih => exact ih
  | case5 before c cs hopen hclose ih =>
    rw [List.cons_append, openAfter?.eq_def]
    dsimp only
    rw [if_neg hopen, if_neg hclose, ih]

theorem openAfter?_add (h : openAfter? before text = some after) (more : Nat)
    : openAfter? (before + more) text = some (after + more) := by
  fun_induction openAfter? before text with
  | case1 before =>
    cases h
    rfl
  | case2 before cs ih =>
    rw [← ih h, Nat.add_right_comm]
    rfl
  | case3 cs => cases h
  | case4 cs before _ ih =>
    rw [← ih h, Nat.succ_add]
    rfl
  | case5 before c cs hopen hclose ih =>
    rw [openAfter?.eq_def]
    dsimp only
    rw [if_neg hopen, if_neg hclose, ih h]

theorem openAfter?_append_of_closes (h : ClosesParentheses text) (before : Nat)
    (rest : List Char)
    : openAfter? before (text ++ rest) = openAfter? before rest := by
  have htext := openAfter?_add h before
  rw [Nat.zero_add] at htext
  rw [openAfter?_append, htext]
  rfl

theorem closes_of_no_parenthesis (h : ∀ c ∈ text, c ≠ '(' ∧ c ≠ ')') : ClosesParentheses text := by
  induction text with
  | nil => rfl
  | cons c cs ih =>
    rw [List.forall_mem_cons] at h
    unfold ClosesParentheses
    rw [openAfter?.eq_def]
    dsimp only
    rw [if_neg h.1.1, if_neg h.1.2]
    exact ih h.2

theorem closes_placeholder (number : Nat) : ClosesParentheses (placeholder number) := by
  apply closes_of_no_parenthesis
  intro c hc
  exact ⟨ne_of_mem_placeholder hc rfl, ne_of_mem_placeholder hc rfl⟩

theorem closes_intercalate {types : List (List Char)}
    (h : ∀ type ∈ types, ClosesParentheses type)
    : ClosesParentheses (List.intercalate [',', ' '] types) := by
  induction types with
  | nil => rfl
  | cons type types ih =>
    rw [List.forall_mem_cons] at h
    cases types with
    | nil =>
      rw [List.intercalate_singleton]
      exact h.1
    | cons next types =>
      unfold ClosesParentheses
      rw [List.intercalate_cons_cons, List.append_assoc, openAfter?_append_of_closes h.1]
      exact ih h.2

theorem openAfter?_replaceAll {pattern replacement : List Char} (hne : pattern ≠ [])
    (hpattern : ClosesParentheses pattern) (hreplacement : ClosesParentheses replacement)
    (before : Nat) (text : List Char)
    : openAfter? before (replaceAll pattern replacement text) = openAfter? before text := by
  -- An instance of the pattern is passed at once, so this is an induction on the length.
  induction hlength : text.length using Nat.strong_induction_on generalizing before text with
  | _ n ih =>
    have hshorter (cs : List Char) (hcs : cs.length < text.length) (before : Nat) :=
      ih cs.length (hlength ▸ hcs) before cs rfl
    cases text with
    | nil => rfl
    | cons c cs =>
      by_cases hprefix : pattern.isPrefixOf (c :: cs)
      . obtain ⟨rest, hrest⟩ := List.isPrefixOf_iff_prefix.1 hprefix
        rw [← hrest, replaceAll_append_self hne, openAfter?_append_of_closes hreplacement,
          openAfter?_append_of_closes hpattern]
        apply hshorter
        rw [← hrest, List.length_append]
        have := List.length_pos_of_ne_nil hne
        omega
      . have hstep : replaceAll pattern replacement (c :: cs)
            = [c] ++ replaceAll pattern replacement cs := by
          unfold replaceAll
          rw [replaceFrom, if_neg hprefix]
          rfl
        rw [hstep, ← List.singleton_append (l := cs), openAfter?_append, openAfter?_append]
        congr 1
        funext after
        exact hshorter cs (Nat.lt_succ_self _) after

theorem append_parenthesis_inj {left left' right right' : List Char}
    (hright : ClosesParentheses right) (hright' : ClosesParentheses right')
    (h : left ++ '(' :: right = left' ++ '(' :: right')
    : left = left' := by
  -- A right part with the other's parenthesis in it would leave that parenthesis open.
  have hlonger {middle right right' : List Char} (hright : ClosesParentheses right)
      (hright' : ClosesParentheses right') : right' ≠ middle ++ '(' :: right := by
    rintro rfl
    unfold ClosesParentheses at hright'
    rw [openAfter?_append] at hright'
    cases hmiddle : openAfter? 0 middle with
    | none =>
      rw [hmiddle] at hright'
      cases hright'
    | some after =>
      have hafter := openAfter?_add hright (after + 1)
      rw [Nat.zero_add] at hafter
      rw [hmiddle] at hright'
      change openAfter? (after + 1) right = _ at hright'
      rw [hafter] at hright'
      cases hright'
  rw [List.append_eq_append_iff] at h
  rcases h with ⟨middle, hleft, hmiddle⟩ | ⟨middle, hleft, hmiddle⟩
  . cases middle with
    | nil => rw [hleft, List.append_nil]
    | cons c middle => exact absurd (List.cons.inj hmiddle).2 (hlonger hright' hright)
  . cases middle with
    | nil => rw [hleft, List.append_nil]
    | cons c middle => exact absurd (List.cons.inj hmiddle).2 (hlonger hright hright')

end Parentheses

section Types

variable {n : Numbering} {entries : List (List Char × Nat)}

theorem Numbering.ne_nil_see (h : ∀ e ∈ n.assigned, e.1 ≠ []) (arg : List Char)
    : ∀ e ∈ (n.see arg).assigned, e.1 ≠ [] := by
  unfold see
  split
  . exact h
  . split
    . exact h
    . next hnonempty =>
      intro e he
      rw [List.mem_append, List.mem_singleton] at he
      rcases he with he | rfl
      . exact h e he
      . exact List.isEmpty_eq_false_iff.1 (Bool.not_eq_true _ ▸ hnonempty)

theorem Numbering.ne_nil_seePiece (h : ∀ e ∈ n.assigned, e.1 ≠ []) (piece : Piece)
    : ∀ e ∈ (n.seePiece piece).assigned, e.1 ≠ [] := by
  cases piece with
  | plain c => exact h
  | scope => exact h
  | arguments args =>
    unfold seePiece
    dsimp only
    induction args generalizing n with
    | nil => exact h
    | cons arg args ih => exact ih (ne_nil_see h arg)

theorem Numbering.ne_nil_seePieces (h : ∀ e ∈ n.assigned, e.1 ≠ []) (ps : List Piece)
    : ∀ e ∈ (n.seePieces ps).assigned, e.1 ≠ [] := by
  unfold seePieces
  induction ps generalizing n with
  | nil => exact h
  | cons piece ps ih => exact ih (ne_nil_seePiece h piece)

theorem Numbering.ne_nil_ofPieces (ps : List Piece) : ∀ e ∈ (ofPieces ps).assigned, e.1 ≠ [] := by
  apply ne_nil_seePieces
  intro e he
  cases he

theorem closes_foldl_replaceAll (hne : ∀ e ∈ entries, e.1 ≠ [])
    (hentries : ∀ e ∈ entries, ClosesParentheses e.1) {type : List Char}
    (htype : ClosesParentheses type)
    : ClosesParentheses (entries.foldl
        (fun type (arg, number) => replaceAll arg (placeholder number) type) type) := by
  induction entries generalizing type with
  | nil => exact htype
  | cons e entries ih =>
    rw [List.forall_mem_cons] at hne hentries
    apply ih hne.2 hentries.2
    unfold ClosesParentheses
    rw [openAfter?_replaceAll hne.1 hentries.1 (closes_placeholder _)]
    exact htype

theorem closes_writeType (hne : ∀ e ∈ n.assigned, e.1 ≠ [])
    (hassigned : ∀ e ∈ n.assigned, ClosesParentheses e.1) {type : List Char}
    (htype : ClosesParentheses type)
    : ClosesParentheses (n.writeType type) := by
  unfold Numbering.writeType
  split
  . exact closes_placeholder _
  . exact closes_foldl_replaceAll hne hassigned htype

theorem qualifiers_inj {text text' : List Char} {c c' v v' : Bool}
    (h : text ++ [')'] ++ (if c then " const".toList else [])
        ++ (if v then " volatile".toList else [])
      = text' ++ [')'] ++ (if c' then " const".toList else [])
        ++ (if v' then " volatile".toList else []))
    : text = text' := by
  have hreverse := congrArg List.reverse h
  cases c <;> cases c' <;> cases v <;> cases v' <;> simp at hreverse
  all_goals exact hreverse

theorem generic_eq_of_genericFunction_eq {f g : TemplatedFunction} (hf : HasClosedArguments f)
    (hg : HasClosedArguments g) (h : genericFunction f = genericFunction g)
    : generic f.name.toList = generic g.name.toList := by
  have hclosed {f : TemplatedFunction} (hf : HasClosedArguments f)
      : ClosesParentheses (List.intercalate [',', ' '] (f.argumentTypes.map fun type =>
          (Numbering.ofPieces (pieces f.name.toList)).writeType type.toList)) := by
    apply closes_intercalate
    intro _ hmem
    obtain ⟨type, htype, rfl⟩ := List.mem_map.1 hmem
    exact closes_writeType (Numbering.ne_nil_ofPieces _) hf.templateArguments (hf.types type htype)
  exact append_parenthesis_inj (hclosed hf) (hclosed hg) (qualifiers_inj (String.ofList_inj.1 h))

-- Without closed parentheses, where the name ends is not seen.
example
    : genericFunction { name := "A", argumentTypes := ["x)(y"], rva := 0 }
        = genericFunction { name := "A(x)", argumentTypes := ["y"], rva := 0 } := by
  decide

end Types

end Name

end Footprint
