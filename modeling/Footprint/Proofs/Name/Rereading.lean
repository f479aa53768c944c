import Footprint.Proofs.Name.Skeleton

/-!
This module contains what is read back from a generic name: the pieces of the name that it was made
from, with numbers in the places of the arguments. So the generic name of a generic name is the
same.
-/

namespace Footprint.Name

open Footprint.Text

variable {args : List (List Char)} {arg name rest text : List Char} {c : Char}

section Numbers

theorem isBlank_of_isAlphanum (h : c.isAlphanum) : isBlank c = false := by
  have hranges : ((65 ≤ c.toNat ∧ c.toNat ≤ 90) ∨ (97 ≤ c.toNat ∧ c.toNat ≤ 122))
      ∨ (48 ≤ c.toNat ∧ c.toNat ≤ 57) := by
    change (decide (c.val ≥ 65 ∧ c.val ≤ 90) || (decide (c.val ≥ 97) && decide (c.val ≤ 122))
      || (decide (c.val ≥ 48) && decide (c.val ≤ 57))) = true at h
    simpa [UInt32.le_iff_toNat_le] using h
  have hbetween : ¬c.toNat ≤ 0x20 ∧ c.toNat < 0x85 := by omega
  simp only [isBlank, blankRanges, CharRanges.contains]
  grind

theorem trim_of_no_blank (h : ∀ c ∈ text, isBlank c = false) : trim text = text := by
  have hkeep {cs : List Char} (hcs : ∀ c ∈ cs, isBlank c = false) : cs.dropWhile isBlank = cs := by
    rw [List.dropWhile_eq_self_iff]
    intro hpos
    simp [hcs]
  unfold trim
  rw [hkeep h, hkeep fun c hc => h c (List.mem_reverse.1 hc), List.reverse_reverse]

theorem isAlphanum_of_mem_writeAmong (h : c ∈ writeAmong args arg) : c.isAlphanum := by
  unfold writeAmong at h
  split at h
  . cases h
  . exact isAlphanum_of_mem_placeholder h

theorem closes_writeAmong (args : List (List Char)) (arg : List Char)
    : closes 0 (writeAmong args arg) := by
  apply closes_of_no_mark
  intro c hc
  have hnot (mark : Char) (hmark : mark.isAlphanum = false) : c ≠ mark := by
    rintro rfl
    rw [isAlphanum_of_mem_writeAmong hc] at hmark
    cases hmark
  exact ⟨hnot '<' rfl, hnot '>' rfl, hnot ',' rfl⟩

theorem trim_writeAmong (args : List (List Char)) (arg : List Char)
    : trim (writeAmong args arg) = writeAmong args arg := by
  apply trim_of_no_blank
  intro c hc
  exact isBlank_of_isAlphanum (isAlphanum_of_mem_writeAmong hc)

end Numbers

section Pieces

theorem ne_nil_of_inside {depth : Nat} {finished : List (List Char)} {ps : List Piece}
    (h : inside depth arg finished text = .arguments args :: ps)
    : args ≠ [] := by
  induction text generalizing depth arg finished with
  | nil =>
    rw [inside.eq_def] at h
    cases h
  | cons c cs ih =>
    rw [inside.eq_def] at h
    dsimp only at h
    split at h
    . exact ih h
    . split at h
      . split at h
        . obtain ⟨rfl⟩ := Piece.arguments.inj (List.cons.inj h).1
          simp
        . exact ih h
      . split at h
        . exact ih h
        . exact ih h

theorem exists_of_written_eq_colon_cons {g : List Char → List Char}
    (h : (outside name).flatMap (Piece.writeWith g) = ':' :: rest)
    : ∃ cs, name = ':' :: cs := by
  induction name using induction_on_reading with
  | nil =>
    rw [outside] at h
    cases h
  | unclosed cs hunclosed =>
    rw [outside_unclosed hunclosed] at h
    cases h
  | list list rest hlist =>
    obtain ⟨args, hargs⟩ := exists_outside_list hlist
    rw [hargs] at h
    cases (List.cons.inj h).1
  | scope cs => exact ⟨_, rfl⟩
  | plain c cs hopen hscope =>
    rw [outside_plain hopen hscope] at h
    exact ⟨cs, congrArg (· :: cs) (List.cons.inj h).1⟩

theorem outside_written {g : List Char → List Char} (hclosed : ∀ arg, closes 0 (g arg))
    (htrim : ∀ arg, trim (g arg) = g arg) (name : List Char)
    : outside ((outside name).flatMap (Piece.writeWith g)) = (outside name).map (.rename g) := by
  induction name using induction_on_reading with
  | nil =>
    rw [outside, List.flatMap_nil, outside]
    rfl
  | unclosed cs hunclosed =>
    rw [outside_unclosed hunclosed, List.flatMap_nil, outside]
    rfl
  | list list rest hlist ih =>
    obtain ⟨args, hargs⟩ := exists_outside_list hlist
    have hne : args ≠ [] := by
      have hinside := hargs rest
      rw [outside] at hinside
      exact ne_nil_of_inside hinside
    have hclosed' : ∀ arg ∈ args.map g, closes 0 arg := by
      intro _ harg
      obtain ⟨arg, _, rfl⟩ := List.mem_map.1 harg
      exact hclosed arg
    have htrim' : trim ∘ g = g := funext htrim
    rw [hargs, List.flatMap_cons, List.map_cons, ← ih]
    show outside ('<' :: List.intercalate [','] (args.map g) ++ ['>'] ++ _) = _
    rw [List.append_assoc, List.singleton_append,
      outside_arguments (by simpa using hne) hclosed', List.map_map, htrim']
    rfl
  | scope cs ih =>
    rw [outside_scope, List.flatMap_cons, List.map_cons, ← ih]
    exact outside_scope _
  | plain c cs hopen hscope ih =>
    rw [outside_plain hopen hscope, List.flatMap_cons, List.map_cons, ← ih]
    apply outside_plain hopen
    -- Two colons that follow each other would have been read as one piece before.
    rintro rest ⟨hc, hrest⟩
    obtain ⟨cs', hcs⟩ := exists_of_written_eq_colon_cons hrest
    exact hscope cs' ⟨hc, hcs⟩

theorem exists_dropLeadingScope_pieces (name : List Char)
    : ∃ part, dropLeadingScope (pieces name) = outside part := by
  by_cases hleading : ∃ rest, pieces name = .scope :: rest
  . obtain ⟨rest, hrest⟩ := hleading
    obtain ⟨cs, rfl, rfl⟩ := exists_of_pieces_eq_scope_cons hrest
    rw [hrest]
    unfold dropLeadingScope
    dsimp only
    split
    . exact ⟨_, hrest.symm⟩
    . exact ⟨cs, rfl⟩
  . exact ⟨name, dropLeadingScope_of_ne (not_exists.1 hleading)⟩

theorem argumentsOf_dropLeadingScope (ps : List Piece)
    : argumentsOf (dropLeadingScope ps) = argumentsOf ps := by
  unfold dropLeadingScope
  split
  . split
    . rfl
    . rfl
  . rfl

theorem dropLeadingScope_dropLeadingScope (ps : List Piece)
    : dropLeadingScope (dropLeadingScope ps) = dropLeadingScope ps := by
  by_cases hleading : ∃ rest, ps = .scope :: rest
  . obtain ⟨rest, rfl⟩ := hleading
    by_cases hmem : .scope ∈ rest
    . have hkept : dropLeadingScope (.scope :: rest) = .scope :: rest := if_pos hmem
      rw [hkept, hkept]
    . -- Without another scope, what is left does not begin with one.
      have hdropped : dropLeadingScope (.scope :: rest) = rest := if_neg hmem
      rw [hdropped]
      apply dropLeadingScope_of_ne
      rintro rest' rfl
      exact hmem List.mem_cons_self
  . have hkept := dropLeadingScope_of_ne (not_exists.1 hleading)
    rw [hkept, hkept]

theorem writePieces_dropLeadingScope (ps : List Piece)
    : writePieces (dropLeadingScope ps) = writePieces ps := by
  rw [writePieces_eq, writePieces_eq, argumentsOf_dropLeadingScope,
    dropLeadingScope_dropLeadingScope]

theorem pieces_generic (name : List Char)
    : pieces (generic name)
        = (dropLeadingScope (pieces name)).map
            (.rename (writeAmong (argumentsOf (pieces name)))) := by
  obtain ⟨part, hpart⟩ := exists_dropLeadingScope_pieces name
  unfold generic
  rw [writePieces_eq, hpart]
  exact outside_written (closes_writeAmong _) (trim_writeAmong _) part

theorem generic_generic (name : List Char) : generic (generic name) = generic name := by
  have hrenaming : IsRenaming (writeAmong (argumentsOf (pieces name)))
      (argumentsOf (dropLeadingScope (pieces name))) := by
    rw [argumentsOf_dropLeadingScope]
    exact isRenaming_writeAmong _
  calc generic (generic name)
    _ = writePieces (pieces (generic name)) := rfl
    _ = writePieces (dropLeadingScope (pieces name)) := by
      rw [pieces_generic, writePieces_rename hrenaming]
    _ = generic name := writePieces_dropLeadingScope _

end Pieces

theorem genericType_genericType (name : String)
    : genericType (genericType name) = genericType name := by
  unfold genericType
  rw [String.toList_ofList, generic_generic]

end Footprint.Name
