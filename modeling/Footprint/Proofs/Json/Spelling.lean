import Footprint.Json.Fields
import Footprint.Proofs.Roster
import Mathlib.Data.List.Forall2
import Mathlib.Data.List.Nodup

/-!
This module contains the spellings of a record, and that its fields are read from all of them. A
record is spelled as an object, with its fields in any order and with other members among them, or
as the array of its fields. A field that holds its default may be missing, in an array only if all
that follow are missing too.
-/

namespace Footprint.Json

/-- How a field of a record may be spelled: under which name, by which values, or not at all. -/
structure FieldSpelling where
  name : String
  IsValue : Json → Prop
  MayBeMissing : Prop

namespace FieldSpelling

def required (name : String) (IsValue : Json → Prop) : FieldSpelling where
  name
  IsValue
  MayBeMissing := False

def optional (name : String) (IsValue : Json → Prop) (HoldsDefault : Prop) : FieldSpelling where
  name
  IsValue
  MayBeMissing := HoldsDefault

end FieldSpelling

inductive GivesFields : List FieldSpelling → List (String × Json) → Prop where
  | nil : GivesFields [] []
  | given {f : FieldSpelling} {fs : List FieldSpelling} {value : Json}
    {members : List (String × Json)} (isValue : f.IsValue value) (rest : GivesFields fs members)
    : GivesFields (f :: fs) ((f.name, value) :: members)
  | missing {f : FieldSpelling} {fs : List FieldSpelling} {members : List (String × Json)}
    (mayBeMissing : f.MayBeMissing) (rest : GivesFields fs members)
    : GivesFields (f :: fs) members

inductive GivesFirst : List FieldSpelling → List Json → Prop where
  | missing {fs : List FieldSpelling} (mayBeMissing : ∀ f ∈ fs, f.MayBeMissing) : GivesFirst fs []
  | given {f : FieldSpelling} {fs : List FieldSpelling} {value : Json} {items : List Json}
    (isValue : f.IsValue value) (rest : GivesFirst fs items)
    : GivesFirst (f :: fs) (value :: items)

inductive SpellsRecord (fs : List FieldSpelling) : Json → Prop where
  | object {members given added : List (String × Json)} (fields : GivesFields fs given)
    (unknown : ∀ m ∈ added, m.1 ∉ fs.map FieldSpelling.name)
    (order : members.Perm (given ++ added))
    : SpellsRecord fs (record members)
  | array {items : List Json} (fields : GivesFirst fs items) : SpellsRecord fs (array items)

inductive SpellsList {α : Type} (Spells : α → Json → Prop) (xs : List α) : Json → Prop where
  | array {items : List Json} (members : List.Forall₂ Spells xs items)
    : SpellsList Spells xs (array items)

def Fields.Give (fields : Fields) (f : FieldSpelling) : Prop :=
  match fields.lookup f.name with
  | some value => f.IsValue value
  | none => f.MayBeMissing

section Reading

variable {f : FieldSpelling} {fs : List FieldSpelling} {fields given : Fields} {value : Json}
  {items : List Json}

theorem give_of_lookup_eq {fields' : Fields} (h : fields.lookup f.name = fields'.lookup f.name)
    (hgive : fields.Give f)
    : fields'.Give f := by
  unfold Fields.Give at hgive ⊢
  rw [← h]
  exact hgive

theorem give_cons_self (h : f.IsValue value) : Fields.Give ((f.name, value) :: fields) f := by
  unfold Fields.Give
  rw [List.lookup_cons_self]
  exact h

theorem give_cons_of_ne {name : String} (h : f.name ≠ name) (hgive : fields.Give f)
    : Fields.Give ((name, value) :: fields) f := by
  apply give_of_lookup_eq _ hgive
  rw [List.lookup_cons, beq_eq_false_iff_ne.2 h]

theorem give_of_not_mem (h : f.MayBeMissing) (hname : f.name ∉ fields.map Prod.fst)
    : fields.Give f := by
  have hlookup : fields.lookup f.name = none := by
    rw [List.lookup_eq_none_iff]
    intro m hm
    rw [bne_iff_ne]
    rintro hkey
    exact hname (hkey ▸ List.mem_map_of_mem hm)
  unfold Fields.Give
  rw [hlookup]
  exact h

theorem GivesFields.sublist (h : GivesFields fs given)
    : (given.map Prod.fst).Sublist (fs.map FieldSpelling.name) := by
  induction h with
  | nil => exact .slnil
  | given _ _ ih => exact ih.cons_cons _
  | missing _ _ ih => exact ih.cons _

theorem GivesFields.give (h : GivesFields fs given) (hnodup : (fs.map FieldSpelling.name).Nodup)
    : ∀ f ∈ fs, Fields.Give given f := by
  induction h with
  | nil => simp
  | @given first fs value members isValue rest ih =>
    have ⟨hfirst, hnodup⟩ := List.nodup_cons.1 hnodup
    intro f hf
    rcases List.mem_cons.1 hf with rfl | hf
    . exact give_cons_self isValue
    . have hne : f.name ≠ first.name := fun heq => hfirst (heq ▸ List.mem_map_of_mem hf)
      exact give_cons_of_ne hne (ih hnodup f hf)
  | @missing first fs members mayBeMissing rest ih =>
    have ⟨hfirst, hnodup⟩ := List.nodup_cons.1 hnodup
    intro f hf
    rcases List.mem_cons.1 hf with rfl | hf
    . exact give_of_not_mem mayBeMissing fun hmem => hfirst (rest.sublist.subset hmem)
    . exact ih hnodup f hf

theorem GivesFirst.length_le (h : GivesFirst fs items) : items.length ≤ fs.length := by
  induction h with
  | missing => exact Nat.zero_le _
  | given _ _ ih => exact Nat.succ_le_succ ih

theorem GivesFirst.give (h : GivesFirst fs items) (hnodup : (fs.map FieldSpelling.name).Nodup)
    : ∀ f ∈ fs, Fields.Give ((fs.map FieldSpelling.name).zip items) f := by
  induction h with
  | missing mayBeMissing =>
    intro f hf
    rw [List.zip_nil_right]
    exact give_of_not_mem (mayBeMissing f hf) List.not_mem_nil
  | @given first fs value items isValue rest ih =>
    have ⟨hfirst, hnodup⟩ := List.nodup_cons.1 hnodup
    intro f hf
    rw [List.map_cons, List.zip_cons_cons]
    rcases List.mem_cons.1 hf with rfl | hf
    . exact give_cons_self isValue
    . have hne : f.name ≠ first.name := fun heq => hfirst (heq ▸ List.mem_map_of_mem hf)
      exact give_cons_of_ne hne (ih hnodup f hf)

theorem lookup_eq_of_perm {others : Fields} (h : fields.Perm others)
    (hnodup : (fields.map Prod.fst).Nodup) (name : String)
    : fields.lookup name = others.lookup name := by
  have hnodup' := (h.map Prod.fst).nodup_iff.1 hnodup
  apply Option.ext
  intro value
  rw [Roster.lookup_eq_some_iff hnodup, Roster.lookup_eq_some_iff hnodup', h.mem_iff]

theorem named?_map_some (members : List (String × Json))
    : named? (members.map fun (key, value) => (some key, value)) = some members := by
  unfold named?
  induction members with
  | nil => rfl
  | cons m members ih =>
    rw [List.map_cons, List.mapM_cons, ih]
    rfl

theorem exists_fields_of_spellsRecord {names : List String} (hnodup : names.Nodup)
    (hnames : fs.map FieldSpelling.name = names) (h : SpellsRecord fs value)
    : ∃ fields, fields? names value = some fields ∧ ∀ f ∈ fs, fields.Give f := by
  subst hnames
  cases h with
  | @object members given added hgiven hunknown horder =>
    have hall : given.filter (·.1 ∈ fs.map FieldSpelling.name) = given := by
      rw [List.filter_eq_self]
      intro m hm
      exact decide_eq_true (hgiven.sublist.subset (List.mem_map_of_mem hm))
    have hnone : added.filter (·.1 ∈ fs.map FieldSpelling.name) = [] := by
      rw [List.filter_eq_nil_iff]
      intro m hm hmem
      exact hunknown m hm (of_decide_eq_true hmem)
    -- The known members are the given ones in another order, so each name is found among both.
    have hperm := horder.filter (·.1 ∈ fs.map FieldSpelling.name)
    rw [List.filter_append, hall, hnone, List.append_nil] at hperm
    have hdistinct := (hperm.map Prod.fst).nodup_iff.2 (hnodup.sublist hgiven.sublist)
    refine ⟨members.filter (·.1 ∈ fs.map FieldSpelling.name), ?_, ?_⟩
    . unfold fields? record
      dsimp only
      rw [named?_map_some]
      dsimp only
      rw [if_pos hdistinct]
    . intro f hf
      apply give_of_lookup_eq _ (hgiven.give hnodup f hf)
      exact (lookup_eq_of_perm hperm hdistinct f.name).symm
  | @array items hitems =>
    refine ⟨(fs.map FieldSpelling.name).zip items, ?_, hitems.give hnodup⟩
    have hlength : items.length ≤ (fs.map FieldSpelling.name).length := by
      rw [List.length_map]
      exact hitems.length_le
    exact if_pos hlength

variable {α : Type} {read? : Json → Option α} {a default : α} {name : String}
  {IsValue : Json → Prop}

theorem required_of_give (h : fields.Give (.required name IsValue))
    (hread : ∀ value, IsValue value → read? value = some a)
    : fields.required name read? = some a := by
  change match fields.lookup name with | some value => IsValue value | none => False at h
  unfold Fields.required
  cases hlookup : fields.lookup name with
  | some value =>
    rw [hlookup] at h
    exact hread value h
  | none =>
    rw [hlookup] at h
    cases h

theorem optional_of_give (h : fields.Give (.optional name IsValue (a = default)))
    (hread : ∀ value, IsValue value → read? value = some a)
    : fields.optional name read? default = some a := by
  change match fields.lookup name with | some value => IsValue value | none => a = default at h
  unfold Fields.optional
  cases hlookup : fields.lookup name with
  | some value =>
    rw [hlookup] at h
    exact hread value h
  | none =>
    rw [hlookup] at h
    rw [h]

theorem required_of_give_eq (h : fields.Give (.required name (· = value)))
    (hread : read? value = some a)
    : fields.required name read? = some a := by
  apply required_of_give h
  rintro _ rfl
  exact hread

theorem optional_of_give_eq (h : fields.Give (.optional name (· = value) (a = default)))
    (hread : read? value = some a)
    : fields.optional name read? default = some a := by
  apply optional_of_give h
  rintro _ rfl
  exact hread

variable {Spells : α → Json → Prop} {xs : List α}

theorem list?_of_spellsList (hread : ∀ x ∈ xs, ∀ value, Spells x value → read? value = some x)
    (h : SpellsList Spells xs value)
    : list? read? value = some xs := by
  obtain ⟨hmembers⟩ := h
  unfold list?
  dsimp only
  induction hmembers with
  | nil => rfl
  | @cons x value xs items hvalue _ ih =>
    rw [List.forall_mem_cons] at hread
    rw [List.mapM_cons, hread.1 value hvalue, ih hread.2]
    rfl

theorem optional_list_of_give
    (h : fields.Give (.optional name (SpellsList Spells xs) (xs = [])))
    (hread : ∀ x ∈ xs, ∀ value, Spells x value → read? value = some x)
    : fields.optional name (list? read?) [] = some xs := by
  apply optional_of_give h
  intro value
  exact list?_of_spellsList hread

theorem natural?_natural {limit n : Nat} (h : n < limit)
    : natural? limit (natural n) = some n :=
  if_pos h

theorem byte?_natural (b : UInt8)
    : byte? (natural b.toNat) = some b := by
  unfold byte?
  rw [natural?_natural b.toNat_lt, Option.map_some, UInt8.ofNat_toNat]

end Reading

section Writing

variable {fs : List FieldSpelling} {members : List (String × Json)}

theorem GivesFields.spellsRecord (h : GivesFields fs members)
    : SpellsRecord fs (record members) := by
  have hunknown : ∀ m ∈ ([] : List (String × Json)), m.1 ∉ fs.map FieldSpelling.name := by simp
  apply SpellsRecord.object h hunknown
  rw [List.append_nil]

theorem spellsList_list {α : Type} {Spells : α → Json → Prop} {toJson : α → Json} {xs : List α}
    (h : ∀ x ∈ xs, Spells x (toJson x))
    : SpellsList Spells xs (list toJson xs) := by
  apply SpellsList.array
  rw [List.forall₂_map_right_iff, List.forall₂_same]
  exact h

end Writing

end Footprint.Json
