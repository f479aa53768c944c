import Footprint.Proofs.Json.Spelling
import Footprint.Proofs.Snapshot.Range
import Footprint.Snapshot.Encode

namespace Footprint

open Json

def Json.SpellsBytes : List UInt8 → Json → Prop :=
  SpellsList fun b value => value = natural b.toNat

def Json.SpellsTexts : List String → Json → Prop :=
  SpellsList fun s value => value = text s

section Spellings

def CoffGroupRecord.spelling (g : CoffGroupRecord) : List FieldSpelling := [
  .required "name" (· = text g.name),
  .optional "size" (· = natural g.size) (g.size = 0),
  .optional "virtual_size" (· = natural g.virtualSize) (g.virtualSize = 0)]

def CoffGroupRecord.Spells (g : CoffGroupRecord) : Json → Prop :=
  SpellsRecord g.spelling

def SectionRecord.spelling (s : SectionRecord) : List FieldSpelling := [
  .required "name" (· = text s.name),
  .optional "size" (· = natural s.size) (s.size = 0),
  .optional "virtual_size" (· = natural s.virtualSize) (s.virtualSize = 0),
  .optional "coff_groups" (SpellsList CoffGroupRecord.Spells s.coffGroups) (s.coffGroups = [])]

def SectionRecord.Spells (s : SectionRecord) : Json → Prop :=
  SpellsRecord s.spelling

def ContributionRecord.spelling (r : ContributionRecord) : List FieldSpelling := [
  .required "section" (· = text r.sectionName),
  .required "coff_group" (· = text r.coffGroup),
  .optional "size" (· = natural r.size) (r.size = 0),
  .optional "virtual_size" (· = natural r.virtualSize) (r.virtualSize = 0)]

def ContributionRecord.Spells (r : ContributionRecord) : Json → Prop :=
  SpellsRecord r.spelling

def CompilandRecord.spelling (c : CompilandRecord) : List FieldSpelling := [
  .required "name" (· = text c.name),
  .required "lib" (· = text c.lib),
  .optional "contributions" (SpellsList ContributionRecord.Spells c.contributions)
    (c.contributions = [])]

def CompilandRecord.Spells (c : CompilandRecord) : Json → Prop :=
  SpellsRecord c.spelling

def SourceFileRecord.spelling (f : SourceFileRecord) : List FieldSpelling := [
  .required "name" (· = text f.name),
  .optional "contributions" (SpellsList ContributionRecord.Spells f.contributions)
    (f.contributions = [])]

def SourceFileRecord.Spells (f : SourceFileRecord) : Json → Prop :=
  SpellsRecord f.spelling

def Symbol.spelling (s : Symbol) : List FieldSpelling := [
  .required "name" (· = text s.name),
  .required "rva" (· = natural s.rva),
  .optional "size" (· = natural s.size) (s.size = 0),
  .optional "virtual_size" (· = natural s.virtualSize) (s.virtualSize = 0)]

def Symbol.Spells (s : Symbol) : Json → Prop :=
  SpellsRecord s.spelling

def StaticData.spelling (d : StaticData) : List FieldSpelling := [
  .required "name" (· = text d.name),
  .required "rva" (· = natural d.rva),
  .optional "size" (· = natural d.size) (d.size = 0),
  .optional "virtual_size" (· = natural d.virtualSize) (d.virtualSize = 0),
  .required "compiland" (· = text d.compiland),
  .optional "bytes" (SpellsBytes d.bytes) (d.bytes = [])]

def StaticData.Spells (d : StaticData) : Json → Prop :=
  SpellsRecord d.spelling

def TemplatedFunction.spelling (f : TemplatedFunction) : List FieldSpelling := [
  .required "name" (· = text f.name),
  .optional "argument_types" (SpellsTexts f.argumentTypes) (f.argumentTypes = []),
  .optional "is_const" (· = .bool f.isConst) (f.isConst = false),
  .optional "is_volatile" (· = .bool f.isVolatile) (f.isVolatile = false),
  .required "rva" (· = natural f.rva),
  .optional "size" (· = natural f.size) (f.size = 0),
  .optional "is_folded" (· = .bool f.isFolded) (f.isFolded = false),
  .optional "block_count" (· = natural f.blockCount) (f.blockCount = 1),
  .optional "code" (SpellsBytes f.code) (f.code = [])]

def TemplatedFunction.Spells (f : TemplatedFunction) : Json → Prop :=
  SpellsRecord f.spelling

def MemberFunction.spelling (f : MemberFunction) : List FieldSpelling := [
  .required "name" (· = text f.name),
  .optional "is_virtual" (· = .bool f.isVirtual) (f.isVirtual = false),
  .optional "is_pure" (· = .bool f.isPure) (f.isPure = false),
  .optional "is_static" (· = .bool f.isStatic) (f.isStatic = false)]

def MemberFunction.Spells (f : MemberFunction) : Json → Prop :=
  SpellsRecord f.spelling

def UserDefinedType.spelling (t : UserDefinedType) : List FieldSpelling := [
  .required "name" (· = text t.name),
  .optional "base_types" (SpellsTexts t.baseTypes) (t.baseTypes = []),
  .optional "functions" (SpellsList MemberFunction.Spells t.functions) (t.functions = [])]

def UserDefinedType.Spells (t : UserDefinedType) : Json → Prop :=
  SpellsRecord t.spelling

end Spellings

section Reading

namespace Json

variable {fields : Fields} {name : String}

theorem required_text_of_give {s : String} (h : fields.Give (.required name (· = text s)))
    : fields.required name text? = some s :=
  required_of_give_eq h rfl

theorem required_count_of_give {n : Nat} (hrange : n < wordLimit)
    (h : fields.Give (.required name (· = natural n)))
    : fields.required name count? = some n :=
  required_of_give_eq h (natural?_natural hrange)

theorem optional_count_of_give {n : Nat} (hrange : n < wordLimit)
    (h : fields.Give (.optional name (· = natural n) (n = 0)))
    : fields.optional name count? 0 = some n :=
  optional_of_give_eq h (natural?_natural hrange)

theorem optional_small_of_give {n default : Nat} (hrange : n < smallLimit)
    (h : fields.Give (.optional name (· = natural n) (n = default)))
    : fields.optional name small? default = some n :=
  optional_of_give_eq h (natural?_natural hrange)

theorem optional_bool_of_give {b : Bool}
    (h : fields.Give (.optional name (· = .bool b) (b = false)))
    : fields.optional name bool? false = some b :=
  optional_of_give_eq h rfl

theorem optional_bytes_of_give {bytes : List UInt8}
    (h : fields.Give (.optional name (SpellsBytes bytes) (bytes = [])))
    : fields.optional name (list? byte?) [] = some bytes := by
  apply optional_list_of_give h
  rintro b _ _ rfl
  exact byte?_natural b

theorem optional_texts_of_give {texts : List String}
    (h : fields.Give (.optional name (SpellsTexts texts) (texts = [])))
    : fields.optional name (list? text?) [] = some texts := by
  apply optional_list_of_give h
  rintro s _ _ rfl
  rfl

end Json

variable {value : Json}

theorem CoffGroupRecord.ofJson?_of_spells {g : CoffGroupRecord} (hrange : g.InRange)
    (h : g.Spells value)
    : ofJson? value = some g := by
  have hnodup : fieldNames.Nodup := by decide
  have ⟨fields, hfields, hgive⟩ := exists_fields_of_spellsRecord hnodup rfl h
  simp only [spelling, List.forall_mem_cons] at hgive
  have ⟨hname, hsize, hvirtual, _⟩ := hgive
  simp only [ofJson?, Option.bind_eq_bind, hfields, Option.bind_some,
    required_text_of_give hname, optional_count_of_give hrange.1 hsize,
    optional_count_of_give hrange.2 hvirtual]
  rfl

theorem SectionRecord.ofJson?_of_spells {s : SectionRecord} (hrange : s.InRange)
    (h : s.Spells value)
    : ofJson? value = some s := by
  have hnodup : fieldNames.Nodup := by decide
  have ⟨fields, hfields, hgive⟩ := exists_fields_of_spellsRecord hnodup rfl h
  simp only [spelling, List.forall_mem_cons] at hgive
  have ⟨hname, hsize, hvirtual, hgroups, _⟩ := hgive
  have hgroups := optional_list_of_give hgroups fun g hg _ =>
    CoffGroupRecord.ofJson?_of_spells (hrange.2.2 g hg)
  simp only [ofJson?, Option.bind_eq_bind, hfields, Option.bind_some,
    required_text_of_give hname, optional_count_of_give hrange.1 hsize,
    optional_count_of_give hrange.2.1 hvirtual, hgroups]
  rfl

theorem ContributionRecord.ofJson?_of_spells {r : ContributionRecord} (hrange : r.InRange)
    (h : r.Spells value)
    : ofJson? value = some r := by
  have hnodup : fieldNames.Nodup := by decide
  have ⟨fields, hfields, hgive⟩ := exists_fields_of_spellsRecord hnodup rfl h
  simp only [spelling, List.forall_mem_cons] at hgive
  have ⟨hsection, hgroup, hsize, hvirtual, _⟩ := hgive
  simp only [ofJson?, Option.bind_eq_bind, hfields, Option.bind_some,
    required_text_of_give hsection, required_text_of_give hgroup,
    optional_count_of_give hrange.1 hsize, optional_count_of_give hrange.2 hvirtual]
  rfl

theorem CompilandRecord.ofJson?_of_spells {c : CompilandRecord}
    (hrange : ∀ r ∈ c.contributions, r.InRange) (h : c.Spells value)
    : ofJson? value = some c := by
  have hnodup : fieldNames.Nodup := by decide
  have ⟨fields, hfields, hgive⟩ := exists_fields_of_spellsRecord hnodup rfl h
  simp only [spelling, List.forall_mem_cons] at hgive
  have ⟨hname, hlib, hrecords, _⟩ := hgive
  have hrecords := optional_list_of_give hrecords fun r hr _ =>
    ContributionRecord.ofJson?_of_spells (hrange r hr)
  simp only [ofJson?, Option.bind_eq_bind, hfields, Option.bind_some,
    required_text_of_give hname, required_text_of_give hlib, hrecords]
  rfl

theorem SourceFileRecord.ofJson?_of_spells {f : SourceFileRecord}
    (hrange : ∀ r ∈ f.contributions, r.InRange) (h : f.Spells value)
    : ofJson? value = some f := by
  have hnodup : fieldNames.Nodup := by decide
  have ⟨fields, hfields, hgive⟩ := exists_fields_of_spellsRecord hnodup rfl h
  simp only [spelling, List.forall_mem_cons] at hgive
  have ⟨hname, hrecords, _⟩ := hgive
  have hrecords := optional_list_of_give hrecords fun r hr _ =>
    ContributionRecord.ofJson?_of_spells (hrange r hr)
  simp only [ofJson?, Option.bind_eq_bind, hfields, Option.bind_some,
    required_text_of_give hname, hrecords]
  rfl

theorem Symbol.ofJson?_of_spells {s : Symbol} (hrange : s.InRange)
    (h : s.Spells value)
    : ofJson? value = some s := by
  have hnodup : fieldNames.Nodup := by decide
  have ⟨fields, hfields, hgive⟩ := exists_fields_of_spellsRecord hnodup rfl h
  simp only [spelling, List.forall_mem_cons] at hgive
  have ⟨hname, hrva, hsize, hvirtual, _⟩ := hgive
  simp only [ofJson?, Option.bind_eq_bind, hfields, Option.bind_some,
    required_text_of_give hname, required_count_of_give hrange.1 hrva,
    optional_count_of_give hrange.2.1 hsize, optional_count_of_give hrange.2.2 hvirtual]
  rfl

theorem StaticData.ofJson?_of_spells {d : StaticData} (hrange : d.InRange)
    (h : d.Spells value)
    : ofJson? value = some d := by
  have hnodup : fieldNames.Nodup := by decide
  have ⟨fields, hfields, hgive⟩ := exists_fields_of_spellsRecord hnodup rfl h
  simp only [spelling, List.forall_mem_cons] at hgive
  have ⟨hname, hrva, hsize, hvirtual, hcompiland, hbytes, _⟩ := hgive
  simp only [ofJson?, Option.bind_eq_bind, hfields, Option.bind_some,
    required_text_of_give hname, required_count_of_give hrange.1 hrva,
    optional_count_of_give hrange.2.1 hsize, optional_count_of_give hrange.2.2 hvirtual,
    required_text_of_give hcompiland, optional_bytes_of_give hbytes]
  rfl

theorem TemplatedFunction.ofJson?_of_spells {f : TemplatedFunction} (hrange : f.InRange)
    (h : f.Spells value)
    : ofJson? value = some f := by
  have hnodup : fieldNames.Nodup := by decide
  have ⟨fields, hfields, hgive⟩ := exists_fields_of_spellsRecord hnodup rfl h
  simp only [spelling, List.forall_mem_cons] at hgive
  have ⟨hname, htypes, hconst, hvolatile, hrva, hsize, hfolded, hblocks, hcode, _⟩ := hgive
  simp only [ofJson?, Option.bind_eq_bind, hfields, Option.bind_some,
    required_text_of_give hname, optional_texts_of_give htypes, optional_bool_of_give hconst,
    optional_bool_of_give hvolatile, required_count_of_give hrange.1 hrva,
    optional_count_of_give hrange.2.1 hsize, optional_bool_of_give hfolded,
    optional_small_of_give hrange.2.2 hblocks, optional_bytes_of_give hcode]
  rfl

theorem MemberFunction.ofJson?_of_spells {f : MemberFunction} (h : f.Spells value)
    : ofJson? value = some f := by
  have hnodup : fieldNames.Nodup := by decide
  have ⟨fields, hfields, hgive⟩ := exists_fields_of_spellsRecord hnodup rfl h
  simp only [spelling, List.forall_mem_cons] at hgive
  have ⟨hname, hvirtual, hpure, hstatic, _⟩ := hgive
  simp only [ofJson?, Option.bind_eq_bind, hfields, Option.bind_some,
    required_text_of_give hname, optional_bool_of_give hvirtual, optional_bool_of_give hpure,
    optional_bool_of_give hstatic]
  rfl

theorem UserDefinedType.ofJson?_of_spells {t : UserDefinedType} (h : t.Spells value)
    : ofJson? value = some t := by
  have hnodup : fieldNames.Nodup := by decide
  have ⟨fields, hfields, hgive⟩ := exists_fields_of_spellsRecord hnodup rfl h
  simp only [spelling, List.forall_mem_cons] at hgive
  have ⟨hname, hbases, hfunctions, _⟩ := hgive
  have hfunctions := optional_list_of_give hfunctions fun f _ _ =>
    MemberFunction.ofJson?_of_spells
  simp only [ofJson?, Option.bind_eq_bind, hfields, Option.bind_some,
    required_text_of_give hname, optional_texts_of_give hbases, hfunctions]
  rfl

end Reading

section Writing

def StaticData.withoutBytes (d : StaticData) : StaticData :=
  { d with bytes := [] }

def TemplatedFunction.withoutCode (f : TemplatedFunction) : TemplatedFunction :=
  { f with code := [] }

theorem Json.spellsTexts_list (texts : List String)
    : SpellsTexts texts (list text texts) :=
  spellsList_list fun _ _ => rfl

theorem CoffGroupRecord.spells_toJson (g : CoffGroupRecord)
    : g.Spells g.toJson :=
  GivesFields.spellsRecord (.given rfl (.given rfl (.given rfl .nil)))

theorem SectionRecord.spells_toJson (s : SectionRecord)
    : s.Spells s.toJson := by
  have hgroups := spellsList_list fun g (_ : g ∈ s.coffGroups) => g.spells_toJson
  exact GivesFields.spellsRecord (.given rfl (.given rfl (.given rfl (.given hgroups .nil))))

theorem ContributionRecord.spells_toJson (r : ContributionRecord)
    : r.Spells r.toJson :=
  GivesFields.spellsRecord (.given rfl (.given rfl (.given rfl (.given rfl .nil))))

theorem CompilandRecord.spells_toJson (c : CompilandRecord)
    : c.Spells c.toJson := by
  have hrecords := spellsList_list fun r (_ : r ∈ c.contributions) => r.spells_toJson
  exact GivesFields.spellsRecord (.given rfl (.given rfl (.given hrecords .nil)))

theorem SourceFileRecord.spells_toJson (f : SourceFileRecord)
    : f.Spells f.toJson := by
  have hrecords := spellsList_list fun r (_ : r ∈ f.contributions) => r.spells_toJson
  exact GivesFields.spellsRecord (.given rfl (.given hrecords .nil))

theorem Symbol.spells_toJson (s : Symbol)
    : s.Spells s.toJson :=
  GivesFields.spellsRecord (.given rfl (.given rfl (.given rfl (.given rfl .nil))))

theorem StaticData.spells_toJson (d : StaticData)
    : d.withoutBytes.Spells d.toJson := by
  apply GivesFields.spellsRecord
  apply GivesFields.given rfl
  apply GivesFields.given rfl
  apply GivesFields.given rfl
  apply GivesFields.given rfl
  apply GivesFields.given rfl
  exact GivesFields.missing rfl .nil

theorem TemplatedFunction.spells_toJson (f : TemplatedFunction)
    : f.withoutCode.Spells f.toJson := by
  apply GivesFields.spellsRecord
  apply GivesFields.given rfl
  apply GivesFields.given (spellsTexts_list f.argumentTypes)
  apply GivesFields.given rfl
  apply GivesFields.given rfl
  apply GivesFields.given rfl
  apply GivesFields.given rfl
  apply GivesFields.given rfl
  apply GivesFields.given rfl
  exact GivesFields.missing rfl .nil

theorem MemberFunction.spells_toJson (f : MemberFunction)
    : f.Spells f.toJson :=
  GivesFields.spellsRecord (.given rfl (.given rfl (.given rfl (.given rfl .nil))))

theorem UserDefinedType.spells_toJson (t : UserDefinedType)
    : t.Spells t.toJson := by
  have hfunctions := spellsList_list fun f (_ : f ∈ t.functions) => f.spells_toJson
  exact GivesFields.spellsRecord
    (.given rfl (.given (spellsTexts_list t.baseTypes) (.given hfunctions .nil)))

end Writing

/--
Whether a record is read from each of its spellings, and from what is written for it the record as
it is kept.
-/
structure ReadsBack {α : Type} (toJson : α → Json) (ofJson? : Json → Option α)
    (Spells : α → Json → Prop) (a kept : α)
    : Prop where
  ofWritten : ofJson? (toJson a) = some kept
  ofSpelling : ∀ value, Spells a value → ofJson? value = some a

theorem records_read_back
    : (∀ s : SectionRecord, s.InRange →
          ReadsBack SectionRecord.toJson SectionRecord.ofJson? SectionRecord.Spells s s)
      ∧ (∀ g : CoffGroupRecord, g.InRange →
          ReadsBack CoffGroupRecord.toJson CoffGroupRecord.ofJson? CoffGroupRecord.Spells g g)
      ∧ (∀ r : ContributionRecord, r.InRange →
          ReadsBack ContributionRecord.toJson ContributionRecord.ofJson? ContributionRecord.Spells
            r r)
      ∧ (∀ c : CompilandRecord, (∀ r ∈ c.contributions, r.InRange) →
          ReadsBack CompilandRecord.toJson CompilandRecord.ofJson? CompilandRecord.Spells c c)
      ∧ (∀ f : SourceFileRecord, (∀ r ∈ f.contributions, r.InRange) →
          ReadsBack SourceFileRecord.toJson SourceFileRecord.ofJson? SourceFileRecord.Spells f f)
      ∧ (∀ s : Symbol, s.InRange → ReadsBack Symbol.toJson Symbol.ofJson? Symbol.Spells s s)
      ∧ (∀ d : StaticData, d.InRange →
          ReadsBack StaticData.toJson StaticData.ofJson? StaticData.Spells d d.withoutBytes)
      ∧ (∀ f : TemplatedFunction, f.InRange →
          ReadsBack TemplatedFunction.toJson TemplatedFunction.ofJson? TemplatedFunction.Spells
            f f.withoutCode)
      ∧ (∀ t : UserDefinedType,
          ReadsBack UserDefinedType.toJson UserDefinedType.ofJson? UserDefinedType.Spells t t)
      ∧ ∀ f : MemberFunction,
          ReadsBack MemberFunction.toJson MemberFunction.ofJson? MemberFunction.Spells f f := by
  refine ⟨?_, ?_, ?_, ?_, ?_, ?_, ?_, ?_, ?_, ?_⟩
  . intro s hrange
    exact ⟨SectionRecord.ofJson?_of_spells hrange s.spells_toJson,
      fun _ => SectionRecord.ofJson?_of_spells hrange⟩
  . intro g hrange
    exact ⟨CoffGroupRecord.ofJson?_of_spells hrange g.spells_toJson,
      fun _ => CoffGroupRecord.ofJson?_of_spells hrange⟩
  . intro r hrange
    exact ⟨ContributionRecord.ofJson?_of_spells hrange r.spells_toJson,
      fun _ => ContributionRecord.ofJson?_of_spells hrange⟩
  . intro c hrange
    exact ⟨CompilandRecord.ofJson?_of_spells hrange c.spells_toJson,
      fun _ => CompilandRecord.ofJson?_of_spells hrange⟩
  . intro f hrange
    exact ⟨SourceFileRecord.ofJson?_of_spells hrange f.spells_toJson,
      fun _ => SourceFileRecord.ofJson?_of_spells hrange⟩
  . intro s hrange
    exact ⟨Symbol.ofJson?_of_spells hrange s.spells_toJson,
      fun _ => Symbol.ofJson?_of_spells hrange⟩
  . intro d hrange
    have hkept : d.withoutBytes.InRange := hrange
    exact ⟨StaticData.ofJson?_of_spells hkept d.spells_toJson,
      fun _ => StaticData.ofJson?_of_spells hrange⟩
  . intro f hrange
    have hkept : f.withoutCode.InRange := hrange
    exact ⟨TemplatedFunction.ofJson?_of_spells hkept f.spells_toJson,
      fun _ => TemplatedFunction.ofJson?_of_spells hrange⟩
  . intro t
    exact ⟨UserDefinedType.ofJson?_of_spells t.spells_toJson,
      fun _ => UserDefinedType.ofJson?_of_spells⟩
  . intro f
    exact ⟨MemberFunction.ofJson?_of_spells f.spells_toJson,
      fun _ => MemberFunction.ofJson?_of_spells⟩

def textSection : SectionRecord :=
  { name := ".text", virtualSize := 32, coffGroups := [{ name := ".text$mn", size := 16 }] }

def shuffledSection : Json :=
  record [
    ("virtual_size", natural 32), ("coff_groups", list id [list id [text ".text$mn", natural 16]]),
    ("comment", text "code"), ("name", text ".text")]

def tableData : StaticData :=
  { name := "table", rva := 4096, size := 2, compiland := "table.obj", bytes := [7, 255] }

theorem records_read_back_shuffledSection
    : textSection.Spells shuffledSection
      ∧ SectionRecord.ofJson? shuffledSection = some textSection
      ∧ SectionRecord.ofJson? textSection.toJson = some textSection
      ∧ StaticData.ofJson? tableData.toJson = some { tableData with bytes := [] } := by
  have ⟨hsection, _, _, _, _, _, hdata, _⟩ := records_read_back
  have hsectionRange : textSection.InRange := by
    refine ⟨by decide, by decide, ?_⟩
    intro g hg
    rw [List.mem_singleton.1 hg]
    exact ⟨by decide, by decide⟩
  have hgroup : CoffGroupRecord.Spells { name := ".text$mn", size := 16 }
      (list id [text ".text$mn", natural 16]) := by
    refine .array (.given rfl (.given rfl (.missing ?_)))
    intro f hf
    rw [List.mem_singleton.1 hf]
    rfl
  have hgroups : SpellsList CoffGroupRecord.Spells textSection.coffGroups
      (list id [list id [text ".text$mn", natural 16]]) :=
    .array (.cons hgroup .nil)
  have hfields : GivesFields textSection.spelling _ :=
    .given rfl (.missing rfl (.given rfl (.given hgroups .nil)))
  have hunknown : ∀ m ∈ [("comment", text "code")],
      m.1 ∉ textSection.spelling.map FieldSpelling.name := by
    simp [SectionRecord.spelling, FieldSpelling.required, FieldSpelling.optional]
  have hspells : textSection.Spells shuffledSection :=
    .object hfields hunknown (List.perm_append_singleton _ [_, _, _])
  have hread := hsection textSection hsectionRange
  have hdataRange : tableData.InRange := ⟨by decide, by decide, by decide⟩
  exact ⟨hspells, hread.ofSpelling _ hspells, hread.ofWritten,
    (hdata tableData hdataRange).ofWritten⟩

end Footprint
