import Footprint.Proofs.Name.Numbering
import Footprint.Proofs.Name.Pattern

/-!
This module contains well-formed names and what their generic names are. Such a name consists of
segments that are joined by `::`, with argument lists in which the brackets are properly nested. Its
generic name is the same with the arguments at all places written by their numbers.
-/

namespace Footprint.Name

open Footprint.Text

/--
Whether the brackets in a text are properly nested. Outside of all of them, a comma may stand only
if this is said.
-/
inductive IsNested : Bool → List Char → Prop where
  | nil {commas : Bool} : IsNested commas []
  | char {commas : Bool} {c : Char} {rest : List Char} (isOpen : c ≠ '<') (isClose : c ≠ '>')
    (isComma : c = ',' → commas) (hrest : IsNested commas rest)
    : IsNested commas (c :: rest)
  | brackets {commas : Bool} {content rest : List Char} (hcontent : IsNested true content)
    (hrest : IsNested commas rest)
    : IsNested commas ('<' :: (content ++ '>' :: rest))

inductive IsArgument (arg : List Char) : Prop where
  | blank (h : ∀ c ∈ arg, isBlank c)
  | text (h : IsNested false arg)

inductive SegmentPart where
  | plain (c : Char)
  | arguments (args : List (List Char))
  deriving DecidableEq, Repr

namespace SegmentPart

def IsWellFormed : SegmentPart → Prop
  | plain c => c ≠ '<' ∧ c ≠ '>' ∧ c ≠ ':'
  | arguments args => args ≠ [] ∧ ∀ arg ∈ args, IsArgument arg

def args : SegmentPart → List (List Char)
  | plain _ => []
  | arguments args => args

def map (f : List Char → List Char) : SegmentPart → SegmentPart
  | plain c => plain c
  | arguments args => arguments (args.map f)

def writeWith (g : List Char → List Char) : SegmentPart → List Char
  | plain c => [c]
  | arguments args => '<' :: List.intercalate [','] (args.map g) ++ ['>']

def toPiece : SegmentPart → Piece
  | plain c => .plain c
  | arguments args => .arguments args

end SegmentPart

structure QualifiedName where
  first : List SegmentPart
  more : List (List SegmentPart)
  first_ne : first ≠ []
  isWellFormed : ∀ segment ∈ first :: more, ∀ part ∈ segment, part.IsWellFormed

namespace QualifiedName

def segments (name : QualifiedName) : List (List SegmentPart) :=
  name.first :: name.more

def trimmed (name : QualifiedName) : List (List SegmentPart) :=
  name.segments.map (·.map (.map trim))

def arguments (name : QualifiedName) : List (List Char) :=
  name.trimmed.flatMap (·.flatMap SegmentPart.args)

def writeWith (name : QualifiedName) (g : List Char → List Char) : List Char :=
  List.intercalate [':', ':'] (name.segments.map (·.flatMap (SegmentPart.writeWith g)))

def text (name : QualifiedName) : String :=
  .ofList (name.writeWith id)

def numbered (name : QualifiedName) : String :=
  .ofList (name.writeWith fun arg => writeAmong name.arguments (trim arg))

/-- Whether two names differ by a renaming of the arguments in the same segments. -/
structure RenamedTo (name other : QualifiedName) (f : List Char → List Char) : Prop where
  isRenaming : IsRenaming f name.arguments
  trimmed_eq : other.trimmed = name.trimmed.map (·.map (.map f))

end QualifiedName

section Reading

variable {commas : Bool} {depth : Nat} {text : List Char}

theorem closes_append_of_isNested (h : IsNested commas text) (hdepth : commas → 0 < depth)
    (rest : List Char)
    : closes depth (text ++ rest) = closes depth rest := by
  induction h generalizing depth rest with
  | nil => rfl
  | @char commas c text isOpen isClose isComma _ ih =>
    have hcomma : ¬(c = ',' ∧ depth = 0) := by
      rintro ⟨hc, rfl⟩
      exact Nat.lt_irrefl 0 (hdepth (isComma hc))
    rw [List.cons_append, closes.eq_def]
    dsimp only
    rw [if_neg isOpen, if_neg isClose, if_neg hcomma]
    exact ih hdepth rest
  | @brackets commas content text _ _ ihcontent ihrest =>
    rw [List.cons_append, List.append_assoc, List.cons_append]
    show closes (depth + 1) (content ++ '>' :: (text ++ rest)) = _
    rw [ihcontent fun _ => Nat.succ_pos depth]
    exact ihrest hdepth rest

theorem exists_isNested_of_closes_succ (h : closes (depth + 1) text)
    : ∃ content rest,
        text = content ++ '>' :: rest ∧ IsNested true content ∧ closes depth rest := by
  induction hlength : text.length using Nat.strong_induction_on generalizing depth text with
  | _ n ih =>
    cases text with
    | nil => cases of_decide_eq_true h
    | cons c cs =>
      have hshorter {depth : Nat} {text : List Char} (hle : text.length ≤ cs.length)
          (h : closes (depth + 1) text) :=
        ih text.length (hlength ▸ Nat.lt_succ_of_le hle) h rfl
      rw [closes.eq_def] at h
      dsimp only at h
      split at h
      . next hopen =>
        obtain ⟨inner, rest, rfl, hinner, hrest⟩ := hshorter (Nat.le_refl _) h
        obtain ⟨content, rest, rfl, hcontent, hclosed⟩ := hshorter (by simp; omega) hrest
        refine ⟨'<' :: (inner ++ '>' :: content), rest, ?_, .brackets hinner hcontent, hclosed⟩
        simp [hopen]
      . next hopen =>
        split at h
        . next hclose => exact ⟨[], cs, by rw [hclose]; rfl, .nil, h⟩
        . next hclose =>
          rw [if_neg fun hcomma => Nat.succ_ne_zero _ hcomma.2] at h
          obtain ⟨content, rest, rfl, hcontent, hclosed⟩ := hshorter (Nat.le_refl _) h
          exact ⟨c :: content, rest, rfl, .char hopen hclose (fun _ => rfl) hcontent, hclosed⟩

theorem isNested_of_closes (h : closes 0 text) : IsNested false text := by
  induction hlength : text.length using Nat.strong_induction_on generalizing text with
  | _ n ih =>
    cases text with
    | nil => exact .nil
    | cons c cs =>
      rw [closes.eq_def] at h
      dsimp only at h
      split at h
      . next hopen =>
        obtain ⟨content, rest, rfl, hcontent, hrest⟩ := exists_isNested_of_closes_succ h
        rw [hopen]
        refine .brackets hcontent (ih rest.length ?_ hrest rfl)
        rw [← hlength, List.length_cons, List.length_append, List.length_cons]
        omega
      . next hopen =>
        split at h
        . cases h
        . next hclose =>
          split at h
          . cases h
          . next hcomma =>
            refine .char hopen hclose (fun hc => absurd ⟨hc, rfl⟩ hcomma) ?_
            exact ih cs.length (hlength ▸ Nat.lt_succ_self _) h rfl

theorem isArgument_iff_closes : IsArgument text ↔ closes 0 text := by
  constructor
  . intro h
    cases h with
    | blank h => exact closes_of_blank h
    | text h =>
      have hclosed : closes 0 (text ++ []) = true := closes_append_of_isNested h (by simp) []
      rwa [List.append_nil] at hclosed
  . intro h
    exact .text (isNested_of_closes h)

instance (arg : List Char) : Decidable (IsArgument arg) :=
  decidable_of_iff _ isArgument_iff_closes.symm

instance : DecidablePred SegmentPart.IsWellFormed
  | .plain c => inferInstanceAs (Decidable (c ≠ '<' ∧ c ≠ '>' ∧ c ≠ ':'))
  | .arguments args => inferInstanceAs (Decidable (args ≠ [] ∧ ∀ arg ∈ args, IsArgument arg))

theorem outside_segment {segment : List SegmentPart} (h : ∀ part ∈ segment, part.IsWellFormed)
    (rest : List Char)
    : outside (segment.flatMap (SegmentPart.writeWith id) ++ rest)
        = segment.map (fun part => (part.map trim).toPiece) ++ outside rest := by
  induction segment with
  | nil => rfl
  | cons part segment ih =>
    rw [List.forall_mem_cons] at h
    rw [List.flatMap_cons, List.append_assoc, List.map_cons, List.cons_append, ← ih h.2]
    cases part with
    | plain c =>
      obtain ⟨hopen, _, hcolon⟩ := h.1
      apply outside_plain hopen
      exact fun cs hcs => hcolon hcs.1
    | arguments args =>
      obtain ⟨hne, hargs⟩ := h.1
      unfold SegmentPart.writeWith
      dsimp only
      rw [List.map_id, List.append_assoc, List.singleton_append,
        outside_arguments hne fun arg harg => isArgument_iff_closes.1 (hargs arg harg)]
      rfl

theorem outside_segments (first : List SegmentPart) (more : List (List SegmentPart))
    (h : ∀ segment ∈ first :: more, ∀ part ∈ segment, part.IsWellFormed)
    : outside (List.intercalate [':', ':']
          ((first :: more).map (·.flatMap (SegmentPart.writeWith id))))
        = List.intercalate [.scope]
          ((first :: more).map (·.map fun part => (part.map trim).toPiece)) := by
  induction more generalizing first with
  | nil =>
    have hfirst := outside_segment (h first (.head _)) []
    rw [List.append_nil, outside, List.append_nil] at hfirst
    simpa using hfirst
  | cons second more ih =>
    rw [List.forall_mem_cons] at h
    rw [List.map_cons, List.map_cons, List.intercalate_cons_cons, List.append_assoc,
      outside_segment h.1]
    show _ ++ outside (':' :: ':' :: List.intercalate [':', ':']
      ((second :: more).map (·.flatMap (SegmentPart.writeWith id)))) = _
    rw [outside, ih second h.2, List.map_cons, List.map_cons, List.map_cons,
      List.intercalate_cons_cons, List.append_assoc]
    rfl

end Reading

theorem flatMap_intercalate {α β : Type} (f : α → List β) (separator : List α)
    (parts : List (List α))
    : (List.intercalate separator parts).flatMap f
        = List.intercalate (separator.flatMap f) (parts.map (·.flatMap f)) := by
  induction parts with
  | nil => rfl
  | cons part parts ih =>
    cases parts with
    | nil => rw [List.map_singleton, List.intercalate_singleton, List.intercalate_singleton]
    | cons next parts =>
      rw [List.map_cons, List.map_cons, List.intercalate_cons_cons, List.intercalate_cons_cons,
        List.flatMap_append, List.flatMap_append, ih, List.map_cons]

theorem map_intercalate {α β : Type} (f : α → β) (separator : List α) (parts : List (List α))
    : (List.intercalate separator parts).map f
        = List.intercalate (separator.map f) (parts.map (·.map f)) := by
  have h := flatMap_intercalate (fun a => [f a]) separator parts
  simp only [← List.map_eq_flatMap] at h
  exact h

theorem intercalate_nil_left {α : Type} (parts : List (List α))
    : List.intercalate [] parts = parts.flatten := by
  induction parts with
  | nil => rfl
  | cons part parts ih =>
    cases parts with
    | nil => simp
    | cons next parts =>
      rw [List.intercalate_cons_cons, ih, List.append_nil]
      rfl

namespace QualifiedName

variable {name other : QualifiedName} {f : List Char → List Char}

def pieces (name : QualifiedName) : List Piece :=
  List.intercalate [.scope] (name.trimmed.map (·.map SegmentPart.toPiece))

theorem pieces_text (name : QualifiedName) : Name.pieces name.text.toList = name.pieces := by
  unfold text Name.pieces writeWith segments pieces trimmed segments
  rw [String.toList_ofList, outside_segments _ _ name.isWellFormed, List.map_map]
  congr 1
  apply List.map_congr_left
  intro segment _
  rw [Function.comp_apply, List.map_map]
  rfl

theorem flatMap_pieces {β : Type} (name : QualifiedName) (f : Piece → List β)
    : name.pieces.flatMap f
        = List.intercalate (f .scope)
          (name.trimmed.map (·.flatMap fun part => f part.toPiece)) := by
  unfold pieces
  rw [flatMap_intercalate, List.flatMap_singleton, List.map_map]
  congr 1
  apply List.map_congr_left
  intro segment _
  rw [Function.comp_apply, List.flatMap_map]

theorem argumentsOf_pieces (name : QualifiedName) : argumentsOf name.pieces = name.arguments := by
  have hargs : (fun part : SegmentPart => part.toPiece.args) = SegmentPart.args := by
    funext part
    cases part <;> rfl
  unfold argumentsOf arguments
  rw [flatMap_pieces, hargs]
  exact intercalate_nil_left _

theorem dropLeadingScope_pieces (name : QualifiedName)
    : dropLeadingScope name.pieces = name.pieces := by
  obtain ⟨part, parts, hfirst⟩ := List.exists_cons_of_ne_nil name.first_ne
  apply dropLeadingScope_of_ne
  unfold pieces trimmed segments
  rw [hfirst, List.map_cons, List.map_cons, List.map_cons, List.map_cons,
    List.intercalate_cons_cons_left]
  intro rest hrest
  have hscope := (List.cons.inj hrest).1
  cases part <;> cases hscope

theorem generic_text (name : QualifiedName)
    : generic name.text.toList
        = name.writeWith fun arg => writeAmong name.arguments (trim arg) := by
  have hpart (g : List Char → List Char) (part : SegmentPart)
      : (part.map trim).toPiece.writeWith g = part.writeWith fun arg => g (trim arg) := by
    cases part with
    | plain c => rfl
    | arguments args =>
      show '<' :: List.intercalate [','] ((args.map trim).map g) ++ ['>'] = _
      rw [List.map_map]
      rfl
  unfold generic writeWith
  rw [pieces_text, writePieces_eq, dropLeadingScope_pieces, flatMap_pieces, argumentsOf_pieces]
  unfold trimmed
  rw [List.map_map]
  congr 1
  apply List.map_congr_left
  intro segment _
  rw [Function.comp_apply, List.flatMap_map]
  apply List.flatMap_congr
  intro part _
  exact hpart _ part

theorem RenamedTo.pieces_eq (h : name.RenamedTo other f)
    : other.pieces = name.pieces.map (.rename f) := by
  have hpart : (fun part : SegmentPart => (part.map f).toPiece)
      = fun part => part.toPiece.rename f := by
    funext part
    cases part <;> rfl
  unfold pieces
  rw [h.trimmed_eq, map_intercalate, List.map_map, List.map_map]
  congr 1
  apply List.map_congr_left
  intro segment _
  rw [Function.comp_apply, Function.comp_apply, List.map_map, List.map_map]
  exact congrArg (segment.map ·) hpart

theorem genericType_eq_numbered
    : (∀ name : QualifiedName, genericType name.text = name.numbered)
      ∧ ∀ (name other : QualifiedName) (f : List Char → List Char), name.RenamedTo other f
        → genericType other.text = genericType name.text := by
  constructor
  . intro name
    exact congrArg String.ofList (generic_text name)
  . intro name other f h
    have hrenaming : IsRenaming f (argumentsOf name.pieces) := by
      rw [argumentsOf_pieces]
      exact h.isRenaming
    unfold genericType generic
    rw [pieces_text, pieces_text, h.pieces_eq, writePieces_rename hrenaming]

def plainParts (text : String) : List SegmentPart :=
  text.toList.map .plain

def outerInner : QualifiedName where
  first := plainParts "Outer" ++ [.arguments [" int ".toList, "ns::Pair<a,b>".toList]]
  more := [plainParts "Inner" ++ [.arguments [" ".toList, "int".toList, " float".toList]]]
  first_ne := by decide
  isWellFormed := by decide

def outerInnerRenamed : QualifiedName where
  first := plainParts "Outer" ++ [.arguments ["bool".toList, " List<c>".toList]]
  more := [plainParts "Inner" ++ [.arguments [[], "bool ".toList, "float".toList]]]
  first_ne := by decide
  isWellFormed := by decide

theorem genericType_eq_numbered_outerInner
    : genericType "Outer< int ,ns::Pair<a,b>>::Inner< ,int, float>" = "Outer<T1,T2>::Inner<,T1,T4>"
      ∧ genericType "Outer<bool, List<c>>::Inner<,bool ,float>"
        = "Outer<T1,T2>::Inner<,T1,T4>" := by
  let f (arg : List Char) : List Char :=
    if arg = "int".toList then "bool".toList
    else if arg = "ns::Pair<a,b>".toList then "List<c>".toList
    else arg
  have hrenamed : outerInner.RenamedTo outerInnerRenamed f :=
    ⟨⟨by decide, by decide⟩, by decide⟩
  have ⟨hnumbered, hsame⟩ := genericType_eq_numbered
  have hfirst := hnumbered outerInner
  have hsecond := (hsame outerInner outerInnerRenamed f hrenamed).trans hfirst
  have htext : outerInner.numbered = "Outer<T1,T2>::Inner<,T1,T4>" := by decide
  exact ⟨hfirst.trans htext, hsecond.trans htext⟩

end QualifiedName

end Footprint.Name
