import Footprint.Proofs.Name.Numbering
import Footprint.Proofs.Name.Pattern

/-!
This module contains the skeletons of names: what is left of a name without a leading `::` and
without the contents of its argument lists. A skeleton can be read off the generic name, so names
with one generic name have one skeleton, as far as their brackets are closed. A bracket that is
never closed and what follows it are missing from the generic name.
-/

namespace Footprint.Name

def listLength? (depth : Nat) : List Char → Option Nat
  | [] => none
  | c :: cs =>
    if c = '<' then
      (listLength? (depth + 1) cs).map (· + 1)
    else if c = '>' then
      match depth with
      | 0 => some 1
      | depth + 1 => (listLength? depth cs).map (· + 1)
    else
      (listLength? depth cs).map (· + 1)

/--
A name with its argument lists emptied. A bracket that is never closed is a character like all
others. The first argument is how many characters of a list are still to be passed over.
-/
def emptyListsFrom : Nat → List Char → List Char
  | _, [] => []
  | pending + 1, _ :: cs => emptyListsFrom pending cs
  | 0, c :: cs =>
    if c = '<' then
      match listLength? 0 cs with
      | some length => '<' :: '>' :: emptyListsFrom length cs
      | none => '<' :: emptyListsFrom 0 cs
    else
      c :: emptyListsFrom 0 cs

def emptyLists (name : List Char) : List Char :=
  emptyListsFrom 0 name

def dropScope : List Char → List Char
  | ':' :: ':' :: rest => rest
  | text => text

def skeleton (name : List Char) : List Char :=
  dropScope (emptyLists name)

def closedPartFrom : Nat → List Char → List Char
  | _, [] => []
  | pending + 1, c :: cs => c :: closedPartFrom pending cs
  | 0, c :: cs =>
    if c = '<' then
      match listLength? 0 cs with
      | some length => '<' :: closedPartFrom length cs
      | none => []
    else
      c :: closedPartFrom 0 cs

def closedPart (name : List Char) : List Char :=
  closedPartFrom 0 name

def Piece.frame : Piece → List Char
  | plain c => [c]
  | scope => [':', ':']
  | arguments _ => ['<', '>']

section Lists

variable {depth length : Nat} {list rest text : List Char}

structure IsList (depth : Nat) (list : List Char) : Prop where
  length (rest : List Char) : listLength? depth (list ++ rest) = some list.length
  read (arg : List Char) (finished : List (List Char)) : ∃ args, ∀ rest,
    inside depth arg finished (list ++ rest) = .arguments args :: outside rest

theorem isList_open (h : IsList (depth + 1) list) : IsList depth ('<' :: list) where
  length rest := by
    show (listLength? (depth + 1) (list ++ rest)).map (· + 1) = _
    rw [h.length]
    rfl
  read arg finished := by
    have ⟨args, hargs⟩ := h.read ('<' :: arg) finished
    exact ⟨args, fun rest => inside_open.trans (hargs rest)⟩

theorem isList_end : IsList 0 ['>'] where
  length _ := rfl
  read _ _ := ⟨_, fun _ => inside_end⟩

theorem isList_close (h : IsList depth list) : IsList (depth + 1) ('>' :: list) where
  length rest := by
    show (listLength? depth (list ++ rest)).map (· + 1) = _
    rw [h.length]
    rfl
  read arg finished := by
    have ⟨args, hargs⟩ := h.read ('>' :: arg) finished
    exact ⟨args, fun rest => inside_close.trans (hargs rest)⟩

theorem listLength?_other {c : Char} (hopen : c ≠ '<') (hclose : c ≠ '>') (cs : List Char)
    : listLength? depth (c :: cs) = (listLength? depth cs).map (· + 1) := by
  rw [listLength?.eq_def]
  dsimp only
  rw [if_neg hopen, if_neg hclose]

theorem isList_other {c : Char} (hopen : c ≠ '<') (hclose : c ≠ '>') (h : IsList depth list)
    : IsList depth (c :: list) where
  length rest := by
    rw [List.cons_append, listLength?_other hopen hclose, h.length]
    rfl
  read arg finished := by
    by_cases hcomma : c = ',' ∧ depth = 0
    . obtain ⟨rfl, rfl⟩ := hcomma
      have ⟨args, hargs⟩ := h.read [] (Text.trim arg.reverse :: finished)
      exact ⟨args, fun rest => inside_comma.trans (hargs rest)⟩
    . have ⟨args, hargs⟩ := h.read (c :: arg) finished
      exact ⟨args, fun rest => (inside_other hopen hclose hcomma).trans (hargs rest)⟩

theorem exists_isList (h : listLength? depth text = some length)
    : ∃ list rest, text = list ++ rest ∧ IsList depth list := by
  induction text generalizing depth length with
  | nil => cases h
  | cons c cs ih =>
    rw [listLength?.eq_def] at h
    dsimp only at h
    split at h
    . next hopen =>
      obtain ⟨_, hlength, _⟩ := Option.map_eq_some_iff.1 h
      obtain ⟨list, rest, rfl, hlist⟩ := ih hlength
      exact ⟨c :: list, rest, rfl, hopen ▸ isList_open hlist⟩
    . next hopen =>
      split at h
      . next hclose =>
        subst hclose
        split at h
        . exact ⟨['>'], cs, rfl, isList_end⟩
        . obtain ⟨_, hlength, _⟩ := Option.map_eq_some_iff.1 h
          obtain ⟨list, rest, rfl, hlist⟩ := ih hlength
          exact ⟨'>' :: list, rest, rfl, isList_close hlist⟩
      . next hclose =>
        obtain ⟨_, hlength, _⟩ := Option.map_eq_some_iff.1 h
        obtain ⟨list, rest, rfl, hlist⟩ := ih hlength
        exact ⟨c :: list, rest, rfl, isList_other hopen hclose hlist⟩

theorem inside_of_not_closed {arg : List Char} {finished : List (List Char)}
    (h : listLength? depth text = none)
    : inside depth arg finished text = [] := by
  induction text generalizing depth arg finished with
  | nil => rw [inside.eq_def]
  | cons c cs ih =>
    rw [listLength?.eq_def] at h
    dsimp only at h
    rw [inside.eq_def]
    dsimp only
    split at h
    . next hopen =>
      rw [if_pos hopen]
      exact ih (Option.map_eq_none_iff.1 h)
    . next hopen =>
      rw [if_neg hopen]
      split at h
      . next hclose =>
        rw [if_pos hclose]
        split at h
        . cases h
        . exact ih (Option.map_eq_none_iff.1 h)
      . next hclose =>
        rw [if_neg hclose]
        split
        . exact ih (Option.map_eq_none_iff.1 h)
        . exact ih (Option.map_eq_none_iff.1 h)

theorem listLength?_of_no_bracket (h : ∀ c ∈ text, c ≠ '<' ∧ c ≠ '>') (rest : List Char)
    : listLength? 0 (text ++ '>' :: rest) = some (text.length + 1) := by
  induction text with
  | nil => rfl
  | cons c cs ih =>
    rw [List.forall_mem_cons] at h
    rw [List.cons_append, listLength?_other h.1.1 h.1.2, ih h.2]
    rfl

end Lists

theorem induction_on_reading {motive : List Char → Prop} (nil : motive [])
    (unclosed : ∀ cs, listLength? 0 cs = none → motive ('<' :: cs))
    (list : ∀ list rest, IsList 0 list → motive rest → motive ('<' :: (list ++ rest)))
    (scope : ∀ cs, motive cs → motive (':' :: ':' :: cs))
    (plain : ∀ c cs, c ≠ '<' → (∀ rest, ¬(c = ':' ∧ cs = ':' :: rest)) → motive cs
      → motive (c :: cs))
    (name : List Char)
    : motive name := by
  -- A whole list is read at once, so this is an induction on the length.
  induction hlength : name.length using Nat.strong_induction_on generalizing name with
  | _ n ih =>
    have hshorter (cs : List Char) (hcs : cs.length < name.length) : motive cs :=
      ih cs.length (hlength ▸ hcs) cs rfl
    cases name with
    | nil => exact nil
    | cons c cs =>
      by_cases hopen : c = '<'
      . subst hopen
        cases hclosed : listLength? 0 cs with
        | none => exact unclosed cs hclosed
        | some length =>
          obtain ⟨l, rest, rfl, hlist⟩ := exists_isList hclosed
          apply list l rest hlist (hshorter rest _)
          rw [List.length_cons, List.length_append]
          omega
      . by_cases hscope : ∃ rest, c = ':' ∧ cs = ':' :: rest
        . obtain ⟨rest, rfl, rfl⟩ := hscope
          apply scope rest (hshorter rest _)
          rw [List.length_cons, List.length_cons]
          omega
        . apply plain c cs hopen (not_exists.1 hscope) (hshorter cs _)
          exact Nat.lt_succ_self _

section Reading

variable {list : List Char} (rest : List Char)

theorem emptyListsFrom_length_append (text : List Char)
    : emptyListsFrom text.length (text ++ rest) = emptyLists rest := by
  induction text with
  | nil => rfl
  | cons c cs ih => exact ih

theorem closedPartFrom_length_append (text : List Char)
    : closedPartFrom text.length (text ++ rest) = text ++ closedPart rest := by
  induction text with
  | nil => rfl
  | cons c cs ih => exact congrArg (c :: ·) ih

theorem emptyLists_of_listLength {text : List Char}
    (h : listLength? 0 (text ++ rest) = some text.length)
    : emptyLists ('<' :: (text ++ rest)) = '<' :: '>' :: emptyLists rest := by
  rw [emptyLists, emptyListsFrom, if_pos rfl, h]
  dsimp only
  rw [emptyListsFrom_length_append]

theorem closedPart_list (h : IsList 0 list)
    : closedPart ('<' :: (list ++ rest)) = '<' :: (list ++ closedPart rest) := by
  rw [closedPart, closedPartFrom, if_pos rfl, h.length]
  dsimp only
  rw [closedPartFrom_length_append]

theorem exists_outside_list (h : IsList 0 list)
    : ∃ args, ∀ rest, outside ('<' :: (list ++ rest)) = .arguments args :: outside rest := by
  obtain ⟨args, hargs⟩ := h.read [] []
  refine ⟨args, fun rest => ?_⟩
  rw [outside]
  exact hargs rest

variable {rest} {c : Char}

theorem emptyLists_plain (h : c ≠ '<') : emptyLists (c :: rest) = c :: emptyLists rest := by
  rw [emptyLists, emptyListsFrom, if_neg h]
  rfl

theorem closedPart_plain (h : c ≠ '<') : closedPart (c :: rest) = c :: closedPart rest := by
  rw [closedPart, closedPartFrom, if_neg h]
  rfl

variable {cs : List Char}

theorem closedPart_unclosed (h : listLength? 0 cs = none) : closedPart ('<' :: cs) = [] := by
  rw [closedPart, closedPartFrom, if_pos rfl, h]

theorem emptyLists_unclosed (h : listLength? 0 cs = none)
    : emptyLists ('<' :: cs) = '<' :: emptyLists cs := by
  rw [emptyLists, emptyListsFrom, if_pos rfl, h]
  rfl

theorem outside_unclosed (h : listLength? 0 cs = none) : outside ('<' :: cs) = [] := by
  rw [outside, inside_of_not_closed h]

theorem exists_of_closedPart_eq_cons {name : List Char} (h : closedPart name = c :: cs)
    : ∃ rest, name = c :: rest := by
  cases name with
  | nil => cases h
  | cons d rest =>
    rw [closedPart, closedPartFrom] at h
    split at h
    . next hopen =>
      split at h
      . exact ⟨rest, by rw [hopen, (List.cons.inj h).1]⟩
      . cases h
    . exact ⟨rest, by rw [(List.cons.inj h).1]⟩

theorem pieces_closedPart (name : List Char) : pieces (closedPart name) = pieces name := by
  unfold pieces
  induction name using induction_on_reading with
  | nil => rfl
  | unclosed cs hunclosed =>
    rw [closedPart_unclosed hunclosed, outside_unclosed hunclosed, outside]
  | list list rest hlist ih =>
    obtain ⟨args, hargs⟩ := exists_outside_list hlist
    rw [closedPart_list rest hlist, hargs, hargs, ih]
  | scope cs ih =>
    rw [closedPart_plain (by decide), closedPart_plain (by decide), outside, outside, ih]
  | plain c cs hopen hscope ih =>
    rw [closedPart_plain hopen, outside_plain hopen hscope, ← ih]
    apply outside_plain hopen
    rintro rest ⟨hc, hrest⟩
    obtain ⟨cs', hcs⟩ := exists_of_closedPart_eq_cons hrest
    exact hscope cs' ⟨hc, hcs⟩

theorem plain_open_not_mem_pieces (name : List Char) : .plain '<' ∉ pieces name := by
  unfold pieces
  induction name using induction_on_reading with
  | nil =>
    rw [outside]
    exact List.not_mem_nil
  | unclosed cs hunclosed =>
    rw [outside_unclosed hunclosed]
    exact List.not_mem_nil
  | list list rest hlist ih =>
    obtain ⟨args, hargs⟩ := exists_outside_list hlist
    simp [hargs, ih]
  | scope cs ih => simp [outside, ih]
  | plain c cs hopen hscope ih => simp [outside_plain hopen hscope, ih, hopen.symm]

theorem emptyLists_closedPart (name : List Char)
    : emptyLists (closedPart name) = (pieces name).flatMap Piece.frame := by
  unfold pieces
  induction name using induction_on_reading with
  | nil => rw [outside]; rfl
  | unclosed cs hunclosed =>
    rw [closedPart_unclosed hunclosed, outside_unclosed hunclosed]
    rfl
  | list list rest hlist ih =>
    obtain ⟨args, hargs⟩ := exists_outside_list hlist
    rw [closedPart_list rest hlist, emptyLists_of_listLength _ (hlist.length _), hargs, ih]
    rfl
  | scope cs ih =>
    rw [closedPart_plain (by decide), closedPart_plain (by decide), emptyLists_plain (by decide),
      emptyLists_plain (by decide), outside, ih]
    rfl
  | plain c cs hopen hscope ih =>
    rw [closedPart_plain hopen, emptyLists_plain hopen, outside_plain hopen hscope, ih]
    rfl

theorem emptyLists_of_closedPart_ne (name : List Char) (h : closedPart name ≠ name)
    : ∃ rest, emptyLists name = emptyLists (closedPart name) ++ '<' :: rest := by
  induction name using induction_on_reading with
  | nil => exact absurd rfl h
  | unclosed cs hunclosed =>
    rw [closedPart_unclosed hunclosed, emptyLists_unclosed hunclosed]
    exact ⟨_, rfl⟩
  | list list rest hlist ih =>
    rw [closedPart_list rest hlist] at h
    obtain ⟨rest', hrest⟩ := ih (fun heq => h (by rw [heq]))
    rw [closedPart_list rest hlist, emptyLists_of_listLength _ (hlist.length _),
      emptyLists_of_listLength _ (hlist.length _), hrest]
    exact ⟨rest', rfl⟩
  | scope cs ih =>
    rw [closedPart_plain (by decide), closedPart_plain (by decide)] at h
    obtain ⟨rest', hrest⟩ := ih (fun heq => h (by rw [heq]))
    rw [closedPart_plain (by decide), closedPart_plain (by decide), emptyLists_plain (by decide),
      emptyLists_plain (by decide), emptyLists_plain (by decide), emptyLists_plain (by decide),
      hrest]
    exact ⟨rest', rfl⟩
  | plain c cs hopen _ ih =>
    rw [closedPart_plain hopen] at h
    obtain ⟨rest', hrest⟩ := ih (fun heq => h (by rw [heq]))
    rw [closedPart_plain hopen, emptyLists_plain hopen, emptyLists_plain hopen, hrest]
    exact ⟨rest', rfl⟩

end Reading

section Written

variable {n : Numbering} {c : Char}

theorem ne_of_mem_placeholder {number : Nat} {mark : Char} (h : c ∈ placeholder number)
    (hmark : mark.isAlphanum = false)
    : c ≠ mark := by
  rintro rfl
  rw [isAlphanum_of_mem_placeholder h] at hmark
  cases hmark

theorem no_bracket_of_mem_write {arg : List Char} (h : c ∈ n.write arg) : c ≠ '<' ∧ c ≠ '>' := by
  unfold Numbering.write at h
  split at h
  . exact ⟨ne_of_mem_placeholder h rfl, ne_of_mem_placeholder h rfl⟩
  . cases h

theorem no_bracket_of_mem_intercalate {args : List (List Char)}
    (h : c ∈ List.intercalate [','] (args.map n.write))
    : c ≠ '<' ∧ c ≠ '>' := by
  induction args with
  | nil => cases h
  | cons arg args ih =>
    cases args with
    | nil =>
      rw [List.map_singleton, List.intercalate_singleton] at h
      exact no_bracket_of_mem_write h
    | cons next args =>
      rw [List.map_cons, List.map_cons, List.intercalate_cons_cons, List.mem_append,
        List.mem_append, List.mem_singleton] at h
      rcases h with (h | rfl) | h
      . exact no_bracket_of_mem_write h
      . decide
      . exact ih h

theorem emptyLists_flatMap_write {ps : List Piece} (h : .plain '<' ∉ ps)
    : emptyLists (ps.flatMap (Piece.write n)) = ps.flatMap Piece.frame := by
  induction ps with
  | nil => rfl
  | cons piece ps ih =>
    rw [List.mem_cons, not_or] at h
    rw [List.flatMap_cons, List.flatMap_cons, ← ih h.2]
    cases piece with
    | plain c =>
      apply emptyLists_plain
      rintro rfl
      exact h.1 rfl
    | scope =>
      show emptyLists (':' :: ':' :: _) = _
      rw [emptyLists_plain (by decide), emptyLists_plain (by decide)]
      rfl
    | arguments args =>
      show emptyLists ('<' :: List.intercalate [','] (args.map n.write) ++ ['>'] ++ _) = _
      rw [List.cons_append, List.cons_append]
      apply emptyLists_of_listLength
      rw [List.append_assoc, List.length_append]
      exact listLength?_of_no_bracket (fun c hc => no_bracket_of_mem_intercalate hc) _

theorem emptyLists_generic (name : List Char)
    : emptyLists (generic name) = (dropLeadingScope (pieces name)).flatMap Piece.frame := by
  apply emptyLists_flatMap_write
  intro h
  exact plain_open_not_mem_pieces name (mem_of_mem_dropLeadingScope h)

theorem exists_of_emptyLists_eq_cons {name rest : List Char} (hc : c ≠ '<')
    (h : emptyLists name = c :: rest)
    : ∃ cs, name = c :: cs ∧ emptyLists cs = rest := by
  cases name with
  | nil => cases h
  | cons d cs =>
    by_cases hopen : d = '<'
    . subst hopen
      rw [emptyLists, emptyListsFrom, if_pos rfl] at h
      split at h
      . exact absurd (List.cons.inj h).1.symm hc
      . exact absurd (List.cons.inj h).1.symm hc
    . rw [emptyLists_plain hopen] at h
      obtain ⟨rfl, hrest⟩ := List.cons.inj h
      exact ⟨cs, rfl, hrest⟩

theorem emptyLists_ne_scope {cs : List Char} (h : ∀ rest, cs ≠ ':' :: ':' :: rest)
    (rest : List Char)
    : emptyLists cs ≠ ':' :: ':' :: rest := by
  intro heq
  obtain ⟨cs', rfl, heq'⟩ := exists_of_emptyLists_eq_cons (by decide) heq
  obtain ⟨rest', rfl, _⟩ := exists_of_emptyLists_eq_cons (by decide) heq'
  exact h rest' rfl

theorem dropScope_of_ne {text : List Char} (h : ∀ rest, text ≠ ':' :: ':' :: rest)
    : dropScope text = text := by
  unfold dropScope
  split
  . exact absurd rfl (h _)
  . rfl

theorem outside_scope (cs : List Char) : outside (':' :: ':' :: cs) = .scope :: outside cs := by
  rw [outside]

theorem exists_of_pieces_eq_scope_cons {name : List Char} {rest : List Piece}
    (h : pieces name = .scope :: rest)
    : ∃ cs, name = ':' :: ':' :: cs ∧ pieces cs = rest := by
  unfold pieces at h ⊢
  induction name using induction_on_reading with
  | nil =>
    rw [outside] at h
    cases h
  | unclosed cs hunclosed =>
    rw [outside_unclosed hunclosed] at h
    cases h
  | list list rest hlist =>
    obtain ⟨args, hargs⟩ := exists_outside_list hlist
    rw [hargs] at h
    cases h
  | scope cs =>
    rw [outside_scope] at h
    exact ⟨cs, rfl, (List.cons.inj h).2⟩
  | plain c cs hopen hscope =>
    rw [outside_plain hopen hscope] at h
    cases h

theorem skeleton_generic (name : List Char)
    : skeleton (generic name) = skeleton (closedPart name) := by
  unfold skeleton
  rw [emptyLists_generic, emptyLists_closedPart]
  by_cases hleading : ∃ rest, pieces name = .scope :: rest
  . obtain ⟨rest, hrest⟩ := hleading
    rw [hrest]
    unfold dropLeadingScope
    dsimp only
    split
    . rfl
    . next honly =>
      -- Without another scope, what follows the leading one does not begin with a `::` itself.
      obtain ⟨cs, rfl, rfl⟩ := exists_of_pieces_eq_scope_cons hrest
      rw [List.flatMap_cons, ← emptyLists_closedPart]
      apply dropScope_of_ne
      apply emptyLists_ne_scope
      intro rest hrest
      obtain ⟨cs', rfl⟩ := exists_of_closedPart_eq_cons hrest
      rw [closedPart_plain (by decide)] at hrest
      obtain ⟨cs'', rfl⟩ := exists_of_closedPart_eq_cons (List.cons.inj hrest).2
      apply honly
      unfold pieces
      rw [outside_scope]
      exact List.mem_cons_self
  . rw [dropLeadingScope_of_ne (not_exists.1 hleading)]

theorem generic_closedPart (name : List Char) : generic (closedPart name) = generic name := by
  unfold generic
  rw [pieces_closedPart]

theorem dropScope_append_open (text rest : List Char)
    : dropScope (text ++ '<' :: rest) = dropScope text ++ '<' :: rest := by
  by_cases hscope : ∃ cs, text = ':' :: ':' :: cs
  . obtain ⟨cs, rfl⟩ := hscope
    rfl
  . rw [dropScope_of_ne (not_exists.1 hscope), dropScope_of_ne]
    intro cs hcs
    match text with
    | [] => cases hcs
    | [_] => cases hcs
    | _ :: _ :: text =>
      cases hcs
      exact hscope ⟨text, rfl⟩

theorem skeleton_closedPart_ne {name : List Char} (h : closedPart name ≠ name)
    : skeleton (closedPart name) ≠ skeleton name := by
  obtain ⟨rest, hrest⟩ := emptyLists_of_closedPart_ne name h
  unfold skeleton
  rw [hrest, dropScope_append_open]
  simp

end Written

end Footprint.Name
