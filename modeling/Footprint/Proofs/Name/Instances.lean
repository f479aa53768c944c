import Footprint.Proofs.Name.Pattern
import Mathlib.Data.List.Basic

/-!
This module contains when the instantiations of a templated function share a generic name. In the
types of its arguments the names that stand for the parameters are replaced wherever they begin, so
this depends on where they begin apart from the holes for them.
-/

namespace Footprint.Name

variable {ι : Type}

inductive Letter (ι : Type) where
  | char (c : Char)
  | hole (i : ι)
  deriving DecidableEq, Repr

def Letter.fill (σ : ι → List Char) : Letter ι → List Char
  | char c => [c]
  | hole i => σ i

def fill (σ : ι → List Char) (text : List (Letter ι)) : List Char :=
  text.flatMap (Letter.fill σ)

theorem fill_cons (σ : ι → List Char) (letter : Letter ι) (text : List (Letter ι))
    : fill σ (letter :: text) = letter.fill σ ++ fill σ text := by
  rfl

theorem fill_hole (σ : ι → List Char) (i : ι) : fill σ [.hole i] = σ i := by
  exact List.append_nil _

theorem fill_congr {σ τ : ι → List Char} {text : List (Letter ι)}
    (h : ∀ i, .hole i ∈ text → σ i = τ i)
    : fill σ text = fill τ text := by
  apply List.flatMap_congr
  intro letter hletter
  cases letter with
  | char c => rfl
  | hole i => exact h i hletter

def absent (name following : List Char) : List Char → Bool
  | [] => true
  | c :: cs => !name.isPrefixOf (c :: cs ++ following) && absent name following cs

section Replacement

variable {pattern replacement following : List Char}

theorem replaceFrom_length_append (text : List Char)
    : replaceFrom pattern replacement text.length (text ++ following)
        = replaceAll pattern replacement following := by
  induction text with
  | nil => rfl
  | cons c cs ih => exact ih

theorem replaceAll_append_self (hne : pattern ≠ [])
    : replaceAll pattern replacement (pattern ++ following)
        = replacement ++ replaceAll pattern replacement following := by
  cases pattern with
  | nil => contradiction
  | cons c cs =>
    unfold replaceAll
    rw [List.cons_append, replaceFrom, ← List.cons_append,
      if_pos (List.isPrefixOf_iff_prefix.2 (List.prefix_append _ _))]
    congr 1
    exact replaceFrom_length_append cs

theorem replaceAll_append_of_absent {text : List Char} (h : absent pattern following text)
    : replaceAll pattern replacement (text ++ following)
        = text ++ replaceAll pattern replacement following := by
  induction text with
  | nil => rfl
  | cons c cs ih =>
    rw [absent, Bool.and_eq_true, Bool.not_eq_true'] at h
    unfold replaceAll
    rw [List.cons_append, replaceFrom, ← List.cons_append, h.1, if_neg Bool.false_ne_true,
      List.cons_append]
    congr 1
    exact ih h.2

end Replacement

section Legible

variable [DecidableEq ι]

def onlyInHoles (σ : ι → List Char) (i : ι) : List (Letter ι) → Bool
  | [] => true
  | letter :: text =>
    (letter = .hole i || absent (σ i) (fill σ text) (letter.fill σ)) && onlyInHoles σ i text

/--
Whether this is so for one parameter after another, with those before it written as their numbers.
-/
def legible (text : List (Letter ι)) (σ : ι → List Char) : List (ι × Nat) → Bool
  | [] => true
  | (i, number) :: entries =>
    onlyInHoles σ i text && legible text (Function.update σ i (placeholder number)) entries

theorem Letter.fill_update_of_ne {σ : ι → List Char} {i : ι} {letter : Letter ι}
    (h : letter ≠ .hole i) (name : List Char)
    : letter.fill (Function.update σ i name) = letter.fill σ := by
  cases letter with
  | char c => rfl
  | hole j =>
    apply Function.update_of_ne
    rintro rfl
    exact h rfl

theorem replaceAll_fill {σ : ι → List Char} {i : ι} {text : List (Letter ι)} (hne : σ i ≠ [])
    (h : onlyInHoles σ i text) (name : List Char)
    : replaceAll (σ i) name (fill σ text) = fill (Function.update σ i name) text := by
  induction text with
  | nil => rfl
  | cons letter text ih =>
    rw [onlyInHoles, Bool.and_eq_true, Bool.or_eq_true, decide_eq_true_iff] at h
    rw [fill_cons, fill_cons, ← ih h.2]
    by_cases hhole : letter = .hole i
    . subst hhole
      unfold Letter.fill
      dsimp only
      rw [replaceAll_append_self hne, Function.update_self]
    . rw [replaceAll_append_of_absent (h.1.resolve_left hhole), Letter.fill_update_of_ne hhole]

def written (σ : ι → List Char) (entries : List (ι × Nat)) (i : ι) : List Char :=
  (entries.lookup i).elim (σ i) placeholder

theorem written_cons {σ : ι → List Char} {i : ι} {number : Nat} {entries : List (ι × Nat)}
    (h : i ∉ entries.map Prod.fst)
    : written σ ((i, number) :: entries)
        = written (Function.update σ i (placeholder number)) entries := by
  funext j
  unfold written
  rw [List.lookup_cons]
  by_cases hj : j = i
  . subst hj
    have hnone : entries.lookup j = none := by
      rw [List.lookup_eq_none_iff]
      intro e he
      rw [bne_iff_ne]
      rintro rfl
      exact h (List.mem_map_of_mem he)
    rw [beq_self_eq_true, hnone, Function.update_self]
    rfl
  . rw [beq_eq_false_iff_ne.2 hj, Function.update_of_ne hj]

theorem foldl_replaceAll_fill {σ : ι → List Char} {text : List (Letter ι)}
    {entries : List (ι × Nat)} (hdistinct : (entries.map Prod.fst).Nodup)
    (hne : ∀ e ∈ entries, σ e.1 ≠ []) (h : legible text σ entries)
    : (entries.map fun e => (σ e.1, e.2)).foldl
        (fun type (arg, number) => replaceAll arg (placeholder number) type) (fill σ text)
        = fill (written σ entries) text := by
  induction entries generalizing σ with
  | nil => rfl
  | cons e entries ih =>
    obtain ⟨i, number⟩ := e
    rw [legible, Bool.and_eq_true] at h
    rw [List.map_cons, List.nodup_cons] at hdistinct
    rw [List.forall_mem_cons] at hne
    dsimp only at hdistinct hne
    -- Writing this parameter as its number leaves the names that are still to be replaced.
    have hothers : ∀ e ∈ entries, Function.update σ i (placeholder number) e.1 = σ e.1 := by
      intro e he
      apply Function.update_of_ne
      rintro rfl
      exact hdistinct.1 (List.mem_map_of_mem he)
    have hmap : (entries.map fun e => (Function.update σ i (placeholder number) e.1, e.2))
        = entries.map fun e => (σ e.1, e.2) := by
      apply List.map_congr_left
      intro e he
      rw [hothers e he]
    rw [List.map_cons, List.foldl_cons]
    dsimp only
    rw [replaceAll_fill hne.1 h.1, written_cons hdistinct.1, ← ih hdistinct.2 _ h.2, hmap]
    intro e he
    rw [hothers e he]
    exact hne.2 e he

theorem writeType_fill (σ : Assignment ι) (n : ParameterNumbering ι) {type : List (Letter ι)}
    (hdistinct : (n.assigned.map Prod.fst).Nodup)
    (hnumbered : ∀ i, .hole i ∈ type → (n.assigned.lookup i).isSome)
    (hwhole : ∀ e ∈ n.assigned, fill σ.name type = σ.name e.1 → type = [.hole e.1])
    (hlegible : legible type σ.name n.assigned)
    : (n.fill σ.name).writeType (fill σ.name type) = fill (n.write ∘ some) type := by
  unfold Numbering.writeType
  -- A type that is the name of a parameter is looked up, in all others the names are replaced.
  split
  . next number hlookup =>
    obtain ⟨_, _, hsplit, _⟩ := List.lookup_eq_some_iff.1 hlookup
    obtain ⟨e, he, hentry⟩ := List.mem_map.1 (hsplit ▸ List.mem_append_right _ List.mem_cons_self)
    have htype := hwhole e he (congrArg Prod.fst hentry).symm
    subst htype
    have hnumber : n.assigned.lookup e.1 = some number := by
      rw [← hlookup, fill_hole]
      exact (lookup_argument σ n (some e.1)).symm
    rw [fill_hole]
    simp [ParameterNumbering.write, hnumber]
  . refine (foldl_replaceAll_fill hdistinct (fun e _ => (σ.isTypeName e.1).nonempty)
      hlegible).trans ?_
    apply fill_congr
    intro i hi
    obtain ⟨number, hnumber⟩ := Option.isSome_iff_exists.1 (hnumbered i hi)
    simp [written, ParameterNumbering.write, hnumber]

end Legible

structure FunctionPattern (ι : Type) where
  name : List (NamePart ι)
  argumentTypes : List (List (Letter ι))
  isConst : Bool := false
  isVolatile : Bool := false
  listed : ∀ type ∈ argumentTypes, ∀ i, .hole i ∈ type → i ∈ name.flatMap NamePart.parameters

namespace FunctionPattern

variable (p : FunctionPattern ι)

def pieces : List (NamePiece ι) :=
  readParts p.name

structure Describes (σ : ι → List Char) (f : TemplatedFunction) : Prop where
  name : f.name = .ofList (writeName σ p.name)
  argumentTypes : f.argumentTypes = p.argumentTypes.map fun type => .ofList (fill σ type)
  isConst : f.isConst = p.isConst
  isVolatile : f.isVolatile = p.isVolatile

def instantiate (σ : ι → List Char) : TemplatedFunction where
  name := .ofList (writeName σ p.name)
  argumentTypes := p.argumentTypes.map fun type => .ofList (fill σ type)
  isConst := p.isConst
  isVolatile := p.isVolatile
  rva := 0

theorem describes_instantiate (σ : ι → List Char) : p.Describes σ (p.instantiate σ) := by
  exact ⟨rfl, rfl, rfl, rfl⟩

theorem pieces_of_describes {σ : Assignment ι} {f : TemplatedFunction} (h : p.Describes σ.name f)
    : Name.pieces f.name.toList = p.pieces.map (NamePiece.fill σ.name) := by
  rw [h.name, String.toList_ofList, pieces_writeName]
  rfl

variable [DecidableEq ι]

def numbering : ParameterNumbering ι :=
  .ofPieces p.pieces

def genericName : String :=
  .ofList (NamePiece.writePieces p.pieces)

def generic : String :=
  .ofList <| NamePiece.writePieces p.pieces
    ++ '(' :: List.intercalate [',', ' '] (p.argumentTypes.map (fill (p.numbering.write ∘ some)))
    ++ [')']
    ++ (if p.isConst then " const".toList else [])
    ++ (if p.isVolatile then " volatile".toList else [])

structure Legible (σ : ι → List Char) : Prop where
  whole : ∀ type ∈ p.argumentTypes, ∀ e ∈ p.numbering.assigned,
    fill σ type = σ e.1 → type = [.hole e.1]
  parts : ∀ type ∈ p.argumentTypes, legible type σ p.numbering.assigned

variable {p} {σ τ : Assignment ι} {f g : TemplatedFunction}

theorem writeType_of_legible (h : p.Legible σ.name) {type : List (Letter ι)}
    (htype : type ∈ p.argumentTypes)
    : (p.numbering.fill σ.name).writeType (fill σ.name type)
        = fill (p.numbering.write ∘ some) type := by
  apply writeType_fill σ p.numbering
  case hdistinct => exact ParameterNumbering.nodup_ofPieces p.pieces
  case hnumbered =>
    intro i hi
    exact ParameterNumbering.isSome_lookup_ofPieces (p.listed type htype i hi)
  case hwhole => exact h.whole type htype
  case hlegible => exact h.parts type htype

theorem genericType_of_describes (h : p.Describes σ.name f)
    : genericType f.name = p.genericName := by
  unfold genericType Name.generic
  rw [p.pieces_of_describes h, writePieces_fill]
  rfl

theorem genericFunction_of_describes (h : p.Describes σ.name f) (hlegible : p.Legible σ.name)
    : genericFunction f = p.generic := by
  have htypes : f.argumentTypes.map
      (fun type => ((ParameterNumbering.ofPieces p.pieces).fill σ.name).writeType type.toList)
      = p.argumentTypes.map (fill (p.numbering.write ∘ some)) := by
    rw [h.argumentTypes, List.map_map]
    apply List.map_congr_left
    intro type htype
    rw [Function.comp_apply, String.toList_ofList]
    exact writeType_of_legible hlegible htype
  unfold genericFunction generic
  dsimp only
  rw [p.pieces_of_describes h, writePieces_fill, ofPieces_fill, h.isConst, h.isVolatile, htypes]

theorem genericFunction_eq_of_legible (hf : p.Describes σ.name f) (hg : p.Describes τ.name g)
    : (genericType f.name = p.genericName ∧ genericType g.name = p.genericName)
      ∧ (p.Legible σ.name → p.Legible τ.name
        → genericFunction f = p.generic ∧ genericFunction g = p.generic) := by
  constructor
  . exact ⟨genericType_of_describes hf, genericType_of_describes hg⟩
  . intro hσ hτ
    exact ⟨genericFunction_of_describes hf hσ, genericFunction_of_describes hg hτ⟩

end FunctionPattern

def letters (text : String) : List (Letter ι) :=
  text.toList.map .char

namespace FunctionPattern

def mapFind : FunctionPattern (Fin 2) where
  name := [.char 'M', .char 'a', .char 'p',
    .arguments { parameter := some 0 } [{ before := [' '], parameter := some 1 }],
    .char ':', .char ':', .char 'f', .char 'i', .char 'n', .char 'd']
  argumentTypes := [[.hole 1], letters "Node<" ++ [.hole 0, .char ',', .hole 1] ++ letters ">*"]
  isConst := true
  listed := by decide

theorem genericFunction_eq_of_legible_mapFind
    : ∃ f g, f.name = "Map<int, bool>::find" ∧ g.name = "Map<ns::Key, Pair<int,int>>::find"
        ∧ genericFunction f = "Map<T1,T2>::find(T2, Node<T1,T2>*) const"
        ∧ genericFunction g = "Map<T1,T2>::find(T2, Node<T1,T2>*) const" := by
  let scalars : Assignment (Fin 2) := .ofTypes fun | 0 => "int" | 1 => "bool"
  let nested : Assignment (Fin 2) := .ofTypes fun | 0 => "ns::Key" | 1 => "Pair<int,int>"
  have ⟨_, hshared⟩ := genericFunction_eq_of_legible (mapFind.describes_instantiate scalars.name)
    (mapFind.describes_instantiate nested.name)
  have ⟨hscalars, hnested⟩ := hshared ⟨by decide, by decide⟩ ⟨by decide, by decide⟩
  have hgeneric : mapFind.generic = "Map<T1,T2>::find(T2, Node<T1,T2>*) const" := by decide
  exact ⟨_, _, rfl, rfl, hscalars.trans hgeneric, hnested.trans hgeneric⟩

def unsignedCount : FunctionPattern (Fin 1) where
  name := [.char 'F', .arguments { parameter := some 0 } []]
  argumentTypes := [letters "unsigned int*", [.hole 0]]
  listed := by decide

theorem genericFunction_ne_unsignedCount
    : ∃ σ τ : Assignment (Fin 1), ∃ f g, unsignedCount.Describes σ.name f
        ∧ unsignedCount.Describes τ.name g
        ∧ genericFunction f = "F<T1>(unsigned T1*, T1)"
        ∧ genericFunction g = "F<T1>(unsigned int*, T1)"
        ∧ genericFunction f ≠ genericFunction g := by
  -- Where the argument is `int`, it is also found within `unsigned int`.
  refine ⟨.ofTypes fun _ => "int", .ofTypes fun _ => "float", _, _, describes_instantiate _ _,
    describes_instantiate _ _, ?_, ?_, ?_⟩
  . decide
  . decide
  . decide

end FunctionPattern

end Footprint.Name
