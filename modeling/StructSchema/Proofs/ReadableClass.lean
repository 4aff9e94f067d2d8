import Mathlib
import StructSchema.Proofs.Accounting
import StructSchema.Proofs.PlainFields
import StructSchema.Proofs.QuotedKeys
import StructSchema.Proofs.TextsApart

/-!
# Classes tell their fields

The text of a class of plain fields can be read back. Files that agree in their text and around
their properties agree in the lines of these, `SchemaFile.map_propertyLines_eq`, and in the lines of
a member every part ends where a character stands that the part cannot hold,
`SchemaField.IsPlain.outline_eq`. Nor does tidying change such a file: `Nest.isTidy_file`. So models
of words that are the same class have the same fields, but for the rule and the source type that the
types came from: `Generator.outline_of_emit`.
-/

namespace StructSchema

open Text

/-! ## Files -/

/-- Files that agree in their text and around their properties agree in the properties, if those
have the same number of lines each. -/
theorem SchemaFile.map_propertyLines_eq {file other : SchemaFile} {size : Nat} (hsize : 0 < size)
    (hopening : file.opening = other.opening) (hclass : file.className = other.className)
    (hfile : ∀ property ∈ file.properties,
      (propertyLines file.indent property).length = size ∧
        ∀ line ∈ propertyLines file.indent property, IsOneLine line)
    (hother : ∀ property ∈ other.properties,
      (propertyLines other.indent property).length = size ∧
        ∀ line ∈ propertyLines other.indent property, IsOneLine line)
    (he : file.text = other.text) :
    file.properties.map (propertyLines file.indent) =
      other.properties.map (propertyLines other.indent) := by
  have hgroups : ∀ {file : SchemaFile}, (∀ property ∈ file.properties,
      (propertyLines file.indent property).length = size ∧
        ∀ line ∈ propertyLines file.indent property, IsOneLine line) →
      ∀ group ∈ file.properties.map (propertyLines file.indent), group.length = size ∧
        ∀ line ∈ group, IsOneLine line := by
    intro file hfile group hg
    obtain ⟨property, hproperty, rfl⟩ := List.mem_map.1 hg
    exact hfile property hproperty
  have hlines : unlines file.lines = unlines other.lines := he
  rw [lines_eq, lines_eq, hopening, hclass] at hlines
  simp only [unlines_append, String.append_right_inj, String.append_left_inj] at hlines
  have hjoined := unlines_inj
    (forall_mem_intercalate (by decide) fun group hg => (hgroups hfile group hg).2)
    (forall_mem_intercalate (by decide) fun group hg => (hgroups hother group hg).2) hlines
  exact intercalate_inj hsize (fun group hg => (hgroups hfile group hg).1)
    (fun group hg => (hgroups hother group hg).1) hjoined

/-! ## The lines of a member -/

namespace SchemaField

/-- The characters of options, each behind a comma. -/
def optionChars (options : List (String × String)) : List Char :=
  options.flatMap fun (name, value) =>
    ',' :: ' ' :: (name.toList ++ ':' :: ' ' :: value.toList)

theorem toList_join_options (options : List (String × String)) :
    (String.join (options.map fun (name, value) => ", " ++ (name ++ ": " ++ value))).toList =
      optionChars options := by
  unfold optionChars
  rw [String.toList_join, List.flatMap_map]
  simp

theorem optionChars_cons (option : String × String) (options : List (String × String)) :
    optionChars (option :: options) = ',' :: ' ' :: (option.1.toList ++ ':' :: ' ' ::
      (option.2.toList ++ optionChars options)) := by
  unfold optionChars
  rw [List.flatMap_cons]
  simp

/-- A text of words and dots ends where options, a blank or a colon stand. -/
theorem append_inj_of_dotted {text other : String} {rest later : List Char} (ht : IsDotted text)
    (ho : IsDotted other) (hrest : ∀ c ∈ rest.head?, c ∈ [',', ' ', ':'])
    (hlater : ∀ c ∈ later.head?, c ∈ [',', ' ', ':'])
    (h : text.toList ++ rest = other.toList ++ later) : text = other ∧ rest = later := by
  have hmarks : ∀ c ∈ [',', ' ', ':'], (isWordChar c || c == '.') = false := by
    intro c hc
    simp only [List.mem_cons, List.not_mem_nil, or_false] at hc
    rcases hc with rfl | rfl | rfl
    · decide
    · decide
    · decide
  have hruns : ∀ {text : String}, IsDotted text →
      ∀ c ∈ text.toList, (isWordChar c || c == '.') = true :=
    fun ht c hc => by simpa using ht c hc
  obtain ⟨htexts, hrests⟩ := append_inj_of_head? (hruns ht) (hruns ho)
    (fun c hc => hmarks c (hrest c hc)) (fun c hc => hmarks c (hlater c hc)) h
  exact ⟨String.toList_inj.1 htexts, hrests⟩

theorem head?_optionChars (options : List (String × String)) (rest : List Char) :
    ∀ c ∈ (optionChars options ++ ' ' :: rest).head?, c ∈ [',', ' ', ':'] := by
  cases options with
  | nil => simp [optionChars]
  | cons option options => simp [optionChars_cons]

/-- Options of words and dots can be told apart. -/
theorem optionChars_inj {options others : List (String × String)} {rest later : List Char}
    (hoptions : ∀ option ∈ options, IsDotted option.1 ∧ IsDotted option.2)
    (hothers : ∀ option ∈ others, IsDotted option.1 ∧ IsDotted option.2)
    (h : optionChars options ++ ' ' :: rest = optionChars others ++ ' ' :: later) :
    options = others := by
  induction options generalizing others with
  | nil =>
    cases others with
    | nil => rfl
    | cons other others => simp [optionChars] at h
  | cons option options ih =>
    cases others with
    | nil => simp [optionChars] at h
    | cons other others =>
      rw [List.forall_mem_cons] at hoptions hothers
      simp only [optionChars_cons, List.cons_append, List.append_assoc, List.cons.injEq,
        true_and] at h
      obtain ⟨hname, h⟩ :=
        append_inj_of_dotted hoptions.1.1 hothers.1.1 (by simp) (by simp) h
      simp only [List.cons.injEq, true_and] at h
      obtain ⟨hvalue, h⟩ := append_inj_of_dotted hoptions.1.2 hothers.1.2
        (head?_optionChars _ _) (head?_optionChars _ _) h
      rw [Prod.ext hname hvalue, ih hoptions.2 hothers.2 h]

/-- What a class tells of a field. -/
structure Outline where
  name : String
  schemaType : String
  tsType : String
  required : Bool
  options : List (String × String)
  deriving DecidableEq, Repr

/-- The field but for its rule and its source type. -/
def outline (field : SchemaField) : Outline :=
  ⟨field.name, field.schemaType, field.tsType, field.required, field.options⟩

namespace IsPlain

variable {field other : SchemaField} {indent sourceType otherType : String}

/-- The decorator tells the schema type and the options. -/
theorem decorator_inj (h : field.IsPlain) (ho : other.IsPlain)
    (he : indent ++ "@Prop(\x7b type: mongoose.Schema.Types." ++ field.schemaType
          ++ String.join (field.memberOptions.map fun (name, value) =>
            ", " ++ (name ++ ": " ++ value)) ++ " \x7d)" =
        indent ++ "@Prop(\x7b type: mongoose.Schema.Types." ++ other.schemaType
          ++ String.join (other.memberOptions.map fun (name, value) =>
            ", " ++ (name ++ ": " ++ value)) ++ " \x7d)") :
    field.schemaType = other.schemaType ∧ field.memberOptions = other.memberOptions := by
  have hlists := congrArg String.toList he
  have hclose : (" \x7d)" : String).toList = ' ' :: ['\x7d', ')'] := rfl
  simp only [String.toList_append, toList_join_options, hclose, List.append_assoc,
    List.append_cancel_left_eq] at hlists
  obtain ⟨hschema, hoptions⟩ := append_inj_of_dotted h.isDotted_schemaType ho.isDotted_schemaType
    (head?_optionChars _ _) (head?_optionChars _ _) hlists
  exact ⟨hschema, optionChars_inj h.isDotted_memberOptions ho.isDotted_memberOptions hoptions⟩

/-- The declaration tells the name and the type. -/
theorem declaration_inj (h : field.IsPlain) (ho : other.IsPlain)
    (he : indent ++ PropertyKey.ofName field.name ++ ": " ++ field.tsType ++ ";" =
      indent ++ PropertyKey.ofName other.name ++ ": " ++ other.tsType ++ ";") :
    field.name = other.name ∧ field.tsType = other.tsType := by
  have hcolon : ∀ {field : SchemaField}, field.IsPlain →
      ∀ c ∈ (PropertyKey.ofName field.name).toList, (c != ':') = true := by
    intro field h c hc
    rw [bne_iff_ne]
    rintro rfl
    rcases PropertyKey.mem_of_mem_ofName hc with hc | hc | hc
    · exact absurd (h.isWordChar_name _ hc) (by decide)
    · cases hc
    · cases hc
  have hlists := congrArg String.toList he
  have hmark : (": " : String).toList = ':' :: [' '] := rfl
  simp only [String.toList_append, hmark, List.append_assoc, List.append_cancel_left_eq] at hlists
  obtain ⟨hkey, htypes⟩ := append_inj_of_head? (hcolon h) (hcolon ho) (by simp) (by simp) hlists
  simp only [List.cons_append, List.nil_append, List.cons.injEq, true_and,
    List.append_cancel_right_eq] at htypes
  exact ⟨PropertyKey.ofName_injective (String.toList_inj.1 hkey), String.toList_inj.1 htypes⟩

/-- Being required and the options of its own are told from the options of the member. -/
theorem memberOptions_inj (h : field.IsPlain) (ho : other.IsPlain)
    (he : field.memberOptions = other.memberOptions) :
    field.required = other.required ∧ field.options = other.options := by
  have hnot : ∀ {field other : SchemaField}, field.IsPlain →
      field.options ≠ [("required", "true")] ++ other.options := by
    intro field other h hoptions
    refine h.required_not_mem ("required", "true") ?_ rfl
    rw [hoptions]
    exact List.mem_cons_self
  unfold memberOptions at he
  cases hf : field.required with
  | true =>
    cases hr : other.required with
    | true =>
      rw [hf, hr, if_pos rfl] at he
      exact ⟨rfl, List.append_cancel_left he⟩
    | false =>
      rw [hf, hr, if_pos rfl, if_neg (by decide), List.nil_append] at he
      exact absurd he.symm (hnot ho)
  | false =>
    cases hr : other.required with
    | true =>
      rw [hf, hr, if_pos rfl, if_neg (by decide), List.nil_append] at he
      exact absurd he (hnot h)
    | false =>
      rw [hf, hr, if_neg (by decide)] at he
      exact ⟨rfl, he⟩

/-- The lines of a plain field tell its outline. -/
theorem outline_eq (h : field.IsPlain) (ho : other.IsPlain) {commented : Bool}
    (he : SchemaFile.propertyLines indent (Nest.property commented field) =
      SchemaFile.propertyLines indent (Nest.property commented other)) :
    field.outline = other.outline := by
  obtain ⟨sourceType, hsource, hne, -⟩ := h.sourceType_eq
  obtain ⟨otherType, hother, hotherNe, -⟩ := ho.sourceType_eq
  rw [propertyLines_property commented indent hsource hne,
    propertyLines_property commented indent hother hotherNe] at he
  have hlines := (List.append_inj' he rfl).2
  simp only [List.cons.injEq, and_true] at hlines
  obtain ⟨hschema, hoptions⟩ := h.decorator_inj ho hlines.1
  obtain ⟨hname, hts⟩ := h.declaration_inj ho hlines.2
  obtain ⟨hrequired, hown⟩ := h.memberOptions_inj ho hoptions
  unfold outline
  rw [hname, hschema, hts, hrequired, hown]

/-- The number of lines of a plain field. -/
theorem length_propertyLines (h : field.IsPlain) (commented : Bool) (indent : String) :
    (SchemaFile.propertyLines indent (Nest.property commented field)).length =
      if commented then 3 else 2 := by
  obtain ⟨sourceType, hsource, hne, -⟩ := h.sourceType_eq
  rw [propertyLines_property commented indent hsource hne]
  cases commented with
  | true => rfl
  | false => rfl

end IsPlain

end SchemaField

/-! ## The text of a model -/

namespace Nest

variable {settings : Settings} {table : TypeTable} {rules : List OverrideRule} {made : Generator}
  {options : SchemaOptions} {model other : SchemaModel} {indent text : String} {commented : Bool}

/-- The options of a generator that was made were checked. -/
theorem check_of_generator (h : generator settings table rules = .ok made)
    (ho : SchemaOptions.ofValue settings.targetOptions = .ok options) : options.check = .ok () := by
  unfold generator at h
  obtain ⟨found, hfound, h⟩ := Outcome.bind_eq_ok_iff.1 h
  obtain ⟨_, hcheck, -⟩ := Outcome.bind_eq_ok_iff.1 h
  obtain rfl := Except.ok.inj (ho.symm.trans hfound)
  exact hcheck

/-- A generator that was made writes a model whose indentation can be made. -/
theorem emit_own_eq_ok_iff : emit settings options Templates.own model = .ok text ↔
    ∃ indent, indentation settings.indentSize = .ok indent ∧
      text = (file settings.addComments.isTruthy options indent model).text := by
  constructor
  · intro h
    unfold emit at h
    obtain ⟨indent, hindent, h⟩ := Outcome.bind_eq_ok_iff.1 h
    exact ⟨indent, hindent, (Except.ok.inj h).symm⟩
  · rintro ⟨indent, hindent, rfl⟩
    exact emit_own hindent options model

/-- Options pass if their flags are of the kind of flags and the further types those of an
object. -/
theorem check_eq_ok_iff : options.check = .ok () ↔
    (∀ flag ∈ options.flags, flag.2.kind = .bool) ∧ options.typeMap.kind = .object := by
  have hproblems : options.problems = [] ↔
      (∀ flag ∈ options.flags, flag.2.kind = .bool) ∧ options.typeMap.kind = .object := by
    unfold SchemaOptions.problems
    rw [List.append_eq_nil_iff, List.map_eq_nil_iff, List.filter_eq_nil_iff]
    simp
  rw [← hproblems]
  unfold SchemaOptions.check
  cases options.problems with
  | nil => simp
  | cons problem problems => simp

/-- Checked flags are true or false. -/
theorem flags_of_check (h : options.check = .ok ()) :
    ∀ flag ∈ options.flags, ∃ b, flag.2 = .bool b := by
  intro flag hflag
  have hkind := (check_eq_ok_iff.1 h).1 flag hflag
  cases hvalue : flag.2 with
  | bool b => exact ⟨b, rfl⟩
  | _ => simp [hvalue, Value.kind] at hkind

/-- The file of plain fields is tidy. -/
theorem isTidy_file (hcheck : options.check = .ok ())
    (hindent : indentation settings.indentSize = .ok indent)
    (hword : ∀ c ∈ model.structName.toList, isWordChar c)
    (hnamed : commented = true → model.structName ≠ "")
    (hplain : ∀ field ∈ model.fields, field.IsPlain) :
    (file commented options indent model).IsTidy := by
  have hclass : IsOneLine model.structName := isOneLine_of_word fun c hc => .inl (hword c hc)
  have hflag : ∀ flag ∈ options.flags, IsOneLine flag.2.expression := by
    intro flag hf
    obtain ⟨b, hb⟩ := flags_of_check hcheck flag hf
    rw [hb]
    cases b with
    | true => exact (by decide : IsOneLine "true")
    | false => exact (by decide : IsOneLine "false")
  have hserialization : ∀ text ∈ SchemaFile.optionTexts
      ((ClassOption.group options.serialization).map Value.expression), IsOneLine text := by
    have hvirtuals := hflag ("virtuals", options.virtuals) (by simp [SchemaOptions.flags])
    have hversion := hflag ("version_key", options.versionKey) (by simp [SchemaOptions.flags])
    simp only [ClassOption.map, SchemaOptions.serialization, SchemaFile.optionTexts, List.map_cons,
      List.map_nil, List.flatMap_cons, List.flatMap_nil, List.cons_append, List.nil_append,
      List.forall_mem_cons]
    exact ⟨by decide, hvirtuals, by decide, hversion, fun text ht => by cases ht⟩
  refine ⟨isOneLine_indentation hindent, hclass, fun text htext => ?_, fun option hoption => ?_,
    fun property hproperty => ?_⟩
  · unfold file at htext
    split at htext
    · rename_i hcommented
      obtain rfl := Option.some.inj htext
      exact ⟨.append (endsInInk_of_word (hnamed hcommented) hword) _, .append (by decide) hclass⟩
    · cases htext
  · obtain ⟨⟨key, value⟩, hmem, rfl⟩ := List.mem_map.1 hoption
    simp only [SchemaOptions.classOptions, List.mem_cons, List.not_mem_nil, or_false,
      Prod.mk.injEq] at hmem
    rcases hmem with ⟨rfl, rfl⟩ | ⟨rfl, rfl⟩ | ⟨rfl, rfl⟩ | ⟨rfl, rfl⟩
    · exact ⟨(by decide : IsOneLine "id"), List.forall_mem_singleton.2
        (hflag ("schema_id", options.schemaId) (by simp [SchemaOptions.flags]))⟩
    · exact ⟨(by decide : IsOneLine "timestamps"), List.forall_mem_singleton.2
        (hflag ("timestamps", options.timestamps) (by simp [SchemaOptions.flags]))⟩
    · exact ⟨(by decide : IsOneLine "toJSON"), hserialization⟩
    · exact ⟨(by decide : IsOneLine "toObject"), hserialization⟩
  · obtain ⟨field, hfield, rfl⟩ := List.mem_map.1 hproperty
    exact fun line hl => (hplain field hfield).isTidyLine (isOneLine_indentation hindent) hl

/-- What members tell of elements, lists of members tell of lists of elements. -/
theorem map_eq_of_map_eq {α β γ : Type} {f : α → β} {g : α → γ} {xs ys : List α}
    (h : ∀ x ∈ xs, ∀ y ∈ ys, f x = f y → g x = g y) (he : xs.map f = ys.map f) :
    xs.map g = ys.map g := by
  induction xs generalizing ys with
  | nil =>
    cases ys with
    | nil => rfl
    | cons y ys => cases he
  | cons x xs ih =>
    cases ys with
    | nil => cases he
    | cons y ys =>
      obtain ⟨hfirst, hrest⟩ := List.cons.inj he
      rw [List.map_cons, List.map_cons, h x List.mem_cons_self y List.mem_cons_self hfirst,
        ih (fun a ha b hb => h a (List.mem_cons_of_mem x ha) b (List.mem_cons_of_mem y hb)) hrest]

/-- Files of plain fields that agree in their text agree in the outlines of the fields. -/
theorem outline_of_text (hindent : IsOneLine indent) (hname : model.structName = other.structName)
    (hplain : ∀ field ∈ model.fields, field.IsPlain)
    (hother : ∀ field ∈ other.fields, field.IsPlain)
    (he : (file commented options indent model).text = (file commented options indent other).text) :
    model.fields.map SchemaField.outline = other.fields.map SchemaField.outline := by
  have hopening : (file commented options indent model).opening =
      (file commented options indent other).opening := by
    unfold file SchemaFile.opening
    rw [hname]
  have hsize : 0 < if commented then 3 else 2 := by
    split
    · decide
    · decide
  have hmembers : ∀ {model : SchemaModel}, (∀ field ∈ model.fields, field.IsPlain) →
      ∀ property ∈ (file commented options indent model).properties,
        (SchemaFile.propertyLines indent property).length = (if commented then 3 else 2) ∧
          ∀ line ∈ SchemaFile.propertyLines indent property, IsOneLine line := by
    intro model hplain property hproperty
    obtain ⟨field, hfield, rfl⟩ := List.mem_map.1 hproperty
    exact ⟨(hplain field hfield).length_propertyLines commented indent, fun line hl =>
      ((hplain field hfield).isTidyLine hindent hl).isOneLine⟩
  have hlines := SchemaFile.map_propertyLines_eq hsize hopening hname (hmembers hplain)
    (hmembers hother) he
  change (model.fields.map (property commented)).map (SchemaFile.propertyLines indent) =
    (other.fields.map (property commented)).map (SchemaFile.propertyLines indent) at hlines
  rw [List.map_map, List.map_map] at hlines
  exact map_eq_of_map_eq (fun field hf found ho he =>
    (hplain field hf).outline_eq (hother found ho) he) hlines

end Nest

/-! ## Models of words -/

/-- A model that the standard rules and a type table, whose targets hold word characters and dots
alone, make of declared fields whose names and source types hold word characters alone. -/
def SchemaModel.BuiltOfWords (structName : String) (model : SchemaModel) : Prop :=
  ∃ declared types policy,
    (∀ field ∈ declared, (∀ c ∈ field.name.toList, isWordChar c) ∧ field.sourceType ≠ "" ∧
      ∀ c ∈ field.sourceType.toList, isWordChar c) ∧
    (∀ source target, TypeTable.get? types source = some target → IsDotted target) ∧
    SchemaModel.build structName declared types OverrideRule.standard policy = .ok model

theorem SchemaModel.BuiltOfWords.isPlain {structName : String} {model : SchemaModel}
    (h : model.BuiltOfWords structName) :
    model.structName = structName ∧ ∀ field ∈ model.fields, field.IsPlain := by
  obtain ⟨declared, types, policy, hdeclared, htypes, hbuild⟩ := h
  refine SchemaModel.build_invariant (fun d hd => ?_) hbuild
  obtain ⟨hname, hne, hsource⟩ := hdeclared d hd
  exact SchemaField.isPlain_ofDescriptor htypes hname hne hsource

namespace Generator

variable {generator : Generator} {settings : Settings} {table : TypeTable}
  {rules : List OverrideRule} {structName text otherText : String} {model other : SchemaModel}

/-- **The class tells its fields.** Two models of words under one name whose classes are the same
text have the same fields, position by position, but for the rule and the source type that their
types came from. Tidying changes neither text, unless a comment describes a class without a
name, which leaves a blank at its end. -/
theorem outline_of_emit (hmade : Nest.generator settings table rules = .ok generator)
    (hword : ∀ c ∈ structName.toList, isWordChar c) (hmodel : model.BuiltOfWords structName)
    (hother : other.BuiltOfWords structName) (hemit : generator.emit model = .ok text)
    (hemitOther : generator.emit other = .ok otherText) :
    (text = otherText →
      model.fields.map SchemaField.outline = other.fields.map SchemaField.outline) ∧
    ((settings.addComments.isTruthy = true → structName ≠ "") →
      tidy text = text ∧ tidy otherText = otherText) := by
  obtain ⟨-, -, -, options, hoptions, hown⟩ := Nest.generator_ok hmade
  have hcheck := Nest.check_of_generator hmade hoptions
  rw [hown] at hemit hemitOther
  obtain ⟨indent, hindent, rfl⟩ := Nest.emit_own_eq_ok_iff.1 hemit
  obtain ⟨again, hagain, rfl⟩ := Nest.emit_own_eq_ok_iff.1 hemitOther
  obtain rfl := Except.ok.inj (hindent.symm.trans hagain)
  obtain ⟨rfl, hplain⟩ := hmodel.isPlain
  obtain ⟨hname, hplainOther⟩ := hother.isPlain
  refine ⟨Nest.outline_of_text (Nest.isOneLine_indentation hindent) hname.symm hplain hplainOther,
    fun hnamed => ⟨?_, ?_⟩⟩
  · exact (Nest.isTidy_file hcheck hindent hword hnamed hplain).tidy_text_eq
  · rw [← hname] at hword hnamed
    exact (Nest.isTidy_file hcheck hindent hword hnamed hplainOther).tidy_text_eq

/-- A field whose types come from the type table, behind one whose types come from a rule. -/
def twoFields (sourceType : String) : List FieldDescriptor :=
  [⟨"_id", "ObjectID", true, none, none⟩, ⟨"name", sourceType, false, none, none⟩]

/-- The model of the fields. -/
def twoFieldsModel (sourceType : String) : SchemaModel :=
  ⟨"User", [⟨"_id", "ObjectId", "mongoose.Types.ObjectId", true, [("auto", "true")],
      some "identity", some "ObjectID"⟩,
    ⟨"name", "String", "String", false, [], none, some sourceType⟩]⟩

/-- Two models whose second fields have their types from the type table and from the source type
itself are the same class. -/
theorem outline_of_emit_twoFields : ∃ generator text, Nest.generator {} = .ok generator ∧
    generator.emit (twoFieldsModel "string") = .ok text ∧
    generator.emit (twoFieldsModel "String") = .ok text ∧
    (twoFieldsModel "string").fields.map SchemaField.outline =
      (twoFieldsModel "String").fields.map SchemaField.outline ∧ tidy text = text := by
  obtain ⟨generator, hg⟩ : ∃ generator, Nest.generator {} = .ok generator := ⟨_, rfl⟩
  obtain ⟨-, -, -, options, hoptions, hown⟩ := Nest.generator_ok hg
  have hindent : Nest.indentation (Settings.indentSize {}) = .ok "  " := rfl
  have hemit := Nest.emit_own hindent options (twoFieldsModel "string")
  have hemitOther := Nest.emit_own hindent options (twoFieldsModel "String")
  rw [← hown] at hemit hemitOther
  have hall : (["_id", "ObjectID", "name", "string", "String", "User"].all fun text =>
      text.toList.all isWordChar) = true := rfl
  simp only [List.all_eq_true] at hall
  have hwords : ∀ sourceType ∈ ["string", "String"], ∀ field ∈ twoFields sourceType,
      (∀ c ∈ field.name.toList, isWordChar c) ∧ field.sourceType ≠ "" ∧
        ∀ c ∈ field.sourceType.toList, isWordChar c := by
    intro sourceType hs field hf
    have hne : sourceType ≠ "" := by
      rintro rfl
      revert hs
      decide
    rcases List.mem_pair.1 hf with rfl | rfl
    · exact ⟨hall "_id" (by decide), by decide, hall "ObjectID" (by decide)⟩
    · refine ⟨hall "name" (by decide), hne, hall sourceType ?_⟩
      rcases List.mem_pair.1 hs with rfl | rfl
      · decide
      · decide
  have hmodel : (twoFieldsModel "string").BuiltOfWords "User" :=
    ⟨twoFields "string", TypeTable.primitive, .refuse, hwords _ (by decide),
      fun _ _ h => TypeTable.isDotted_of_primitive h, by cbv⟩
  have hnone : ∀ source target, TypeTable.get? ⟨[]⟩ source = some target → IsDotted target :=
    fun _ _ h => by cases h
  have hother : (twoFieldsModel "String").BuiltOfWords "User" :=
    ⟨twoFields "String", ⟨[]⟩, .refuse, hwords _ (by decide), hnone, by cbv⟩
  obtain ⟨houtline, htidy⟩ := outline_of_emit hg (hall "User" (by decide)) hmodel hother hemit
    hemitOther
  exact ⟨generator, _, hg, hemit, hemitOther, houtline rfl, (htidy fun _ => by decide).1⟩

end Generator

end StructSchema
