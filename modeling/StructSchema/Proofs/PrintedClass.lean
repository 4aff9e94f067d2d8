import Mathlib
import StructSchema.Proofs.Accounting
import StructSchema.Proofs.PlainFields
import StructSchema.Proofs.PrintedBody

/-!
# The class of a body written line by line

A body of lines whose fields have distinct names becomes a class with one member for each field, in
order: `Generator.generate_print` gives the whole text. A member has the name of the `bson`
component, is required unless the `json` component is optional, and has the types of the rule that
applies to its name, or those that the type table gives the name at the end of its type.
-/

namespace StructSchema

open Text

namespace FieldText

variable {types : TypeTable} {indent : String} {field : FieldText}

/-! ## The member of a field -/

/-- The types of a field, and the options that come with them. -/
def template (types : TypeTable) (field : FieldText) : FieldTemplate :=
  if field.bsonName = "_id" then ⟨"ObjectId", "mongoose.Types.ObjectId", [("auto", "true")]⟩
  else if Text.fold field.bsonName ∈ ["createdat", "updatedat"] then
    ⟨"Date", "Date", [("default", "Date.now")]⟩
  else ⟨types.resolve field.typeName, types.resolve field.typeName, []⟩

/-- The options of the member of a field, behind its type. -/
def options (types : TypeTable) (field : FieldText) : List (String × String) :=
  (if field.jsonOptional then [] else [("required", "true")]) ++ (field.template types).options

/-- The lines of the member of a field. -/
def member (commented : Bool) (types : TypeTable) (indent : String) (field : FieldText) :
    List String :=
  (if commented then [indent ++ "// source type: " ++ field.typeName] else [])
    ++ [indent ++ "@Prop(\x7b type: mongoose.Schema.Types." ++ (field.template types).schemaType
        ++ String.join ((field.options types).map fun (name, value) =>
          ", " ++ (name ++ ": " ++ value)) ++ " \x7d)",
      indent ++ PropertyKey.ofName field.bsonName ++ ": " ++ (field.template types).tsType ++ ";"]

/-- The field of a schema that a field gives, with the rule that gave its types. -/
def schemaField (types : TypeTable) (rule : Option String) (field : FieldText) : SchemaField :=
  ⟨field.bsonName, (field.template types).schemaType, (field.template types).tsType,
    !field.jsonOptional, (field.template types).options, rule, some field.typeName⟩

/-- The rules in force when none are given, and the type table, give a field its types. -/
theorem ofDescriptor_descriptor (types : TypeTable) (number : Nat) (field : FieldText) :
    ∃ rule, SchemaField.ofDescriptor types OverrideRule.standard (field.descriptor number) =
      field.schemaField types rule := by
  have hidentity : OverrideRule.identity.applies (field.descriptor number) =
      (field.bsonName == "_id") := rfl
  have hfold : ["createdAt", "updatedAt"].map Text.fold = ["createdat", "updatedat"] := by cbv
  have htimestamp : OverrideRule.timestamp.applies (field.descriptor number) =
      ["createdat", "updatedat"].contains (Text.fold field.bsonName) := by
    rw [← hfold]
    rfl
  unfold SchemaField.ofDescriptor OverrideRule.first? OverrideRule.standard schemaField template
  by_cases hid : field.bsonName = "_id"
  · rw [List.find?_cons_of_pos (by simpa [hidentity] using hid), if_pos hid]
    exact ⟨_, rfl⟩
  · rw [List.find?_cons_of_neg (by simpa [hidentity] using hid), if_neg hid]
    by_cases htime : Text.fold field.bsonName ∈ ["createdat", "updatedat"]
    · rw [List.find?_cons_of_pos (by rwa [htimestamp, List.contains_iff_mem]), if_pos htime]
      exact ⟨_, rfl⟩
    · rw [List.find?_cons_of_neg (by rwa [htimestamp, List.contains_iff_mem]), if_neg htime]
      exact ⟨_, rfl⟩

/-- The name at the end of a type is a word. -/
theorem isWordChar_typeName (field : FieldText) :
    field.typeName ≠ "" ∧ ∀ c ∈ field.typeName.toList, isWordChar c := by
  obtain ⟨token, ht, hk⟩ := field.isIdent_type
  have hname : field.typeName = token.value := by
    unfold typeName
    rw [Option.mem_def.1 ht]
    rfl
  rw [hname]
  exact Token.isWordChar_of_mem_scan (List.mem_of_getLast? ht) hk

/-- The lines of the property of a field are its member. -/
theorem propertyLines_descriptor (commented : Bool) (types : TypeTable) (indent : String)
    (number : Nat) (field : FieldText) :
    SchemaFile.propertyLines indent (Nest.property commented
      (SchemaField.ofDescriptor types OverrideRule.standard (field.descriptor number))) =
        field.member commented types indent := by
  obtain ⟨rule, hrule⟩ := ofDescriptor_descriptor types number field
  have hoptions : (field.schemaField types rule).memberOptions = field.options types := by
    unfold SchemaField.memberOptions schemaField options
    cases field.jsonOptional with
    | true => rfl
    | false => rfl
  rw [hrule, SchemaField.propertyLines_property commented indent rfl field.isWordChar_typeName.1]
  unfold SchemaField.memberLines
  rw [hoptions]
  rfl

/-- A type table that holds words and dots gives a member tidy lines. -/
theorem isTidyLine_of_mem_member (htypes : ∀ source target, types.get? source = some target →
      IsDotted target) (hindent : IsOneLine indent) {commented : Bool} {line : String}
    (hl : line ∈ field.member commented types indent) : IsTidyLine line := by
  rw [← propertyLines_descriptor commented types indent 1] at hl
  exact (SchemaField.isPlain_ofDescriptor htypes field.isWordChar_bsonName
    field.isWordChar_typeName.1 field.isWordChar_typeName.2).isTidyLine hindent hl

end FieldText

/-! ## The class of a body -/

namespace Generator

variable {generator : Generator} {settings : Settings} {table : TypeTable} {indent : String}

/-- The model that lines give. -/
def printedModel (types : TypeTable) (structName : String) (lines : List BodyLine) : SchemaModel :=
  ⟨structName, (BodyLine.descriptors 1 lines).map
    (SchemaField.ofDescriptor types OverrideRule.standard)⟩

/-- Lines whose fields have distinct names give one model under either policy. -/
theorem model_print (hrules : generator.rules = OverrideRule.standard)
    (hpolicy : generator.settings.duplicateFields = .str "error" ∨
      generator.settings.duplicateFields = .str "last_wins") (structName : String)
    {lines : List BodyLine} (hnames : ((BodyLine.fields lines).map (·.bsonName)).Nodup) :
    generator.model structName (StructBody.read (BodyLine.print lines)).fields =
      .ok (printedModel generator.types structName lines) := by
  have hdistinct : ((BodyLine.descriptors 1 lines).map (·.name)).Nodup := by
    rwa [BodyLine.map_descriptors _ (·.bsonName) fun _ _ => rfl]
  rw [BodyLine.read_print, model_eq_ok_iff, hrules]
  rcases hpolicy with hp | hp
  · exact ⟨_, ofValue?_eq_some_iff.2 (.inl ⟨hp, rfl⟩), SchemaModel.build_of_nodup hdistinct⟩
  · exact ⟨_, ofValue?_eq_some_iff.2 (.inr ⟨hp, rfl⟩), SchemaModel.build_of_nodup hdistinct⟩

theorem length_fields_printedModel (types : TypeTable) (structName : String)
    (lines : List BodyLine) :
    (printedModel types structName lines).fields.length = (BodyLine.fields lines).length := by
  have hlength := congrArg List.length
    (BodyLine.map_descriptors (fun _ => ()) (fun _ => ()) (fun _ _ => rfl) 1 lines)
  rw [List.length_map, List.length_map] at hlength
  unfold printedModel
  rw [List.length_map, hlength]

/-- The lines of the properties are the members of the fields. -/
theorem map_propertyLines_file (commented : Bool) (options : SchemaOptions) (indent : String)
    (types : TypeTable) (structName : String) (lines : List BodyLine) :
    (Nest.file commented options indent (printedModel types structName lines)).properties.map
        (SchemaFile.propertyLines indent) =
      (BodyLine.fields lines).map (FieldText.member commented types indent) := by
  unfold Nest.file printedModel
  rw [List.map_map, List.map_map]
  exact BodyLine.map_descriptors _ _ (FieldText.propertyLines_descriptor _ _ _) 1 lines

/-- **The class of a body.** A body whose lines declare fields of distinct names is made into a
class that has a member for each field, in order, with an empty line between each two members,
whatever stands between the parts of the lines; no field is skipped. -/
theorem generate_print (hmade : Nest.generator settings table OverrideRule.standard = .ok generator)
    (hindent : Nest.indentation settings.indentSize = .ok indent)
    (hpolicy : settings.duplicateFields = .str "error" ∨
      settings.duplicateFields = .str "last_wins")
    (htypes : ∀ source target, generator.types.get? source = some target →
      ∀ c ∈ target.toList, isWordChar c ∨ c = '.') (structName : String) {lines : List BodyLine}
    (hnames : ((BodyLine.fields lines).map (·.bsonName)).Nodup) :
    ∃ options made, SchemaOptions.ofValue settings.targetOptions = .ok options ∧
      generator.generate structName (BodyLine.print lines) = .ok made ∧
      made.fieldCount = (BodyLine.fields lines).length ∧ made.skippedFields = 0 ∧
      made.code = unlines
        (tidied (Nest.file settings.addComments.isTruthy options indent ⟨structName, []⟩).opening
          ++ [""].intercalate ((BodyLine.fields lines).map
            (FieldText.member settings.addComments.isTruthy generator.types indent))
          ++ tidied (SchemaFile.closing structName)) := by
  obtain ⟨hs, hrules, -, options, hoptions, hemit⟩ := Nest.generator_ok hmade
  have hmodel := model_print hrules (hs ▸ hpolicy) structName hnames
  have hcode := Nest.emit_own hindent options (printedModel generator.types structName lines)
  rw [← hemit] at hcode
  have hmembers := map_propertyLines_file settings.addComments.isTruthy options indent
    generator.types structName lines
  generalize hfile : Nest.file settings.addComments.isTruthy options indent
    (printedModel generator.types structName lines) = file at hcode hmembers
  have hindented : file.indent = indent := by
    rw [← hfile]
    rfl
  have htidy : ∀ property ∈ file.properties,
      ∀ line ∈ SchemaFile.propertyLines file.indent property, IsTidyLine line := by
    intro property hp line hl
    have hgroup := List.mem_map_of_mem (f := SchemaFile.propertyLines indent) hp
    rw [hmembers] at hgroup
    obtain ⟨field, -, hfield⟩ := List.mem_map.1 hgroup
    rw [hindented, ← hfield] at hl
    exact FieldText.isTidyLine_of_mem_member htypes (Nest.isOneLine_indentation hindent) hl
  refine ⟨options, _, hoptions, generate_eq_ok_iff.2 ⟨_, _, hmodel, hcode, rfl⟩, ?_, ?_, ?_⟩
  · exact length_fields_printedModel generator.types structName lines
  · rw [BodyLine.read_print]
    rfl
  · show tidy file.text = _
    rw [SchemaFile.tidy_text file htidy, hindented, hmembers, ← hfile]
    rfl

/-- The members of a class of two fields under the standard settings. -/
theorem generate_print_userLines : ∃ generator made front back,
    Nest.generator {} = .ok generator ∧
    generator.generate "User" (BodyLine.print BodyLine.userLines) = .ok made ∧
    made.fieldCount = 2 ∧
    made.code = unlines (front
      ++ ["  @Prop(\x7b type: mongoose.Schema.Types.ObjectId, required: true, auto: true \x7d)",
        "  _id: mongoose.Types.ObjectId;", "",
        "  @Prop(\x7b type: mongoose.Schema.Types.String \x7d)", "  full_name: String;"]
      ++ back) := by
  obtain ⟨generator, hg, ht⟩ :
      ∃ generator, Nest.generator {} = .ok generator ∧ generator.types = TypeTable.primitive :=
    ⟨_, rfl, rfl⟩
  have htypes : ∀ source target, generator.types.get? source = some target →
      ∀ c ∈ target.toList, isWordChar c ∨ c = '.' := by
    intro source target h
    rw [ht] at h
    exact TypeTable.isDotted_of_primitive h
  have hnames : ((BodyLine.fields BodyLine.userLines).map (·.bsonName)).Nodup := by
    show ["_id", "full_name"].Nodup
    decide
  have hmembers : [""].intercalate ((BodyLine.fields BodyLine.userLines).map
      (FieldText.member (Settings.addComments {}).isTruthy TypeTable.primitive "  ")) =
      ["  @Prop(\x7b type: mongoose.Schema.Types.ObjectId, required: true, auto: true \x7d)",
        "  _id: mongoose.Types.ObjectId;", "",
        "  @Prop(\x7b type: mongoose.Schema.Types.String \x7d)", "  full_name: String;"] := by cbv
  have hindent : Nest.indentation (.int 2) = .ok "  " := rfl
  obtain ⟨options, made, -, hmade, hcount, -, hcode⟩ :=
    generate_print hg hindent (.inl rfl) htypes "User" hnames
  rw [ht, hmembers] at hcode
  exact ⟨generator, made, _, _, hg, hmade, hcount, hcode⟩

end Generator

end StructSchema
