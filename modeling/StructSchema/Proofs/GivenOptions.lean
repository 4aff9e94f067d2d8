import StructSchema.Proofs.MemberLines
import StructSchema.Proofs.OptionLayers
import StructSchema.Proofs.PrintedClass
import StructSchema.Proofs.RepeatedNames

/-!
# Options given beside settings

`Nest.make` leaves options aside that are given beside settings. What is lost with them shows in the
class without members, which tells the flags, `Nest.flags_of_code`, and in the member of a field
whose type is a name, which tells what the type table says of the name: `Nest.get?_of_artifact`. So
options given beside settings count if they say what the settings say, and as far as the texts of
types stay on one line they count only then: `Nest.make_beside`.
-/

namespace StructSchema

open Text

/-! ## Names of types -/

namespace Token

/-- A text that is one identifier. -/
def IsIdent (text : String) : Prop :=
  ∃ c body, text.toList = c :: body ∧ isNameStart c ∧ ∀ d ∈ body, isWordChar d

variable {text : String} {token : Token}

theorem isIdent_of_mem_scan (h : token ∈ scan text) (hk : token.kind = .ident) :
    IsIdent token.value := by
  obtain ⟨rest, hlexes⟩ := exists_lexes_of_mem_scan h
  rw [hk] at hlexes
  unfold IsIdent
  generalize token.value.toList = name at hlexes
  cases hlexes with
  | ident hstart hbody _ => exact ⟨_, _, rfl, hstart, hbody⟩

/-- An identifier is its only token. -/
theorem IsIdent.scan_eq (h : IsIdent text) : scan text = [⟨.ident, text, 1⟩] := by
  obtain ⟨c, body, htext, hstart, hbody⟩ := h
  have hlexes : Lexes .ident (c :: body) [] := .ident hstart hbody (by simp)
  have hscan := scanFrom_append hlexes (by decide) 1
  rw [List.append_nil, scanFrom_nil] at hscan
  rw [scan_eq_scanFrom, htext, hscan, ← htext, String.ofList_toList]

theorem IsIdent.isOneLine (h : IsIdent text) : IsOneLine text := by
  obtain ⟨c, body, htext, hstart, hbody⟩ := h
  have hword : ∀ d ∈ c :: body, isWordChar d :=
    List.forall_mem_cons.2 ⟨isWordChar_of_isNameStart hstart, hbody⟩
  exact isOneLine_of_word fun d hd => .inl (hword d (htext ▸ hd))

end Token

theorem StructBody.isIdent_sourceType {body : String} {field : FieldDescriptor}
    (h : field ∈ (read body).fields) : Token.IsIdent field.sourceType := by
  obtain ⟨token, hmem, hkind, hvalue⟩ := exists_ident h
  exact hvalue ▸ Token.isIdent_of_mem_scan hmem hkind

/-! ## Tables and values -/

section Tables

variable {types other : TypeTable} {rules : List OverrideRule} {policy : DuplicatePolicy}
  {structName : String} {declared : List FieldDescriptor}

/-- What a table says of a type makes the field. -/
theorem SchemaField.ofDescriptor_congr {field : FieldDescriptor}
    (h : types.get? field.sourceType = other.get? field.sourceType) (rules : List OverrideRule) :
    ofDescriptor types rules field = ofDescriptor other rules field := by
  have hresolve : types.resolve field.sourceType = other.resolve field.sourceType := by
    unfold TypeTable.resolve
    rw [h]
  unfold ofDescriptor
  rw [hresolve]

theorem SchemaModel.build_congr
    (h : ∀ field ∈ declared, types.get? field.sourceType = other.get? field.sourceType) :
    build structName declared types rules policy =
      build structName declared other rules policy := by
  unfold build
  rw [List.map_congr_left fun field hf => SchemaField.ofDescriptor_congr (h field hf) rules]

/-- Whether declared fields are refused lies in their names alone. -/
theorem SchemaModel.build_error_congr {fault : Fault} (other : TypeTable)
    (h : build structName declared types rules policy = .error fault) :
    build structName declared other rules policy = .error fault := by
  cases policy with
  | refuse => rwa [build_refuse_eq_error_iff] at h ⊢
  | lastWins =>
    obtain ⟨model, hbuilt, -⟩ := build_lastWins structName declared types rules
    rw [h] at hbuilt
    cases hbuilt

/-- A table says of a name what it resolves it to and whether it holds it. -/
theorem TypeTable.get?_eq_of_resolve {name : String}
    (hresolve : types.resolve name = other.resolve name)
    (hcontains : types.contains name = other.contains name) :
    types.get? name = other.get? name := by
  unfold resolve at hresolve
  unfold contains at hcontains
  cases ht : types.get? name with
  | none =>
    rw [ht] at hcontains
    exact (Option.isNone_iff_eq_none.1 (Option.isSome_eq_false_iff.1 hcontains.symm)).symm
  | some target =>
    rw [ht] at hcontains hresolve
    obtain ⟨found, hfound⟩ := Option.isSome_iff_exists.1 hcontains.symm
    rw [hfound] at hresolve ⊢
    exact congrArg some hresolve

end Tables

/-- True and false are written apart. -/
theorem Value.eq_of_expression {value other : Value} (hv : ∃ b, value = .bool b)
    (ho : ∃ b, other = .bool b) (h : value.expression = other.expression) : value = other := by
  obtain ⟨b, rfl⟩ := hv
  obtain ⟨c, rfl⟩ := ho
  cases b with
  | false =>
    cases c with
    | false => rfl
    | true => exact absurd h (by decide)
  | true =>
    cases c with
    | false => exact absurd h (by decide)
    | true => rfl

/-! ## Generators that agree -/

namespace Generator

variable {generator other : Generator} {structName : String} {declared : List FieldDescriptor}
  {model : SchemaModel}

theorem model_congr (hpolicy : generator.policy = other.policy)
    (hrules : generator.rules = other.rules) (htypes : ∀ field ∈ declared,
      generator.types.get? field.sourceType = other.types.get? field.sourceType) :
    generator.model structName declared = other.model structName declared := by
  have hbuild : ∀ policy,
      SchemaModel.build structName declared generator.types generator.rules policy =
        SchemaModel.build structName declared other.types other.rules policy := by
    intro policy
    rw [hrules, SchemaModel.build_congr htypes]
  unfold Generator.model
  rw [hpolicy, funext hbuild]

/-- Under one policy fields have no model for the same reason, whatever the tables say. -/
theorem model_error_congr (generator other : Generator) {fault : Fault}
    (hpolicy : generator.policy = other.policy) (hrules : generator.rules = other.rules)
    (h : generator.model structName declared = .error fault) :
    other.model structName declared = .error fault := by
  unfold Generator.model at h ⊢
  rw [hpolicy, hrules] at h
  rcases Outcome.bind_eq_error_iff.1 h with h | ⟨policy, hp, h⟩
  · exact Outcome.bind_eq_error_iff.2 (.inl h)
  · exact Outcome.bind_eq_error_iff.2
      (.inr ⟨policy, hp, SchemaModel.build_error_congr other.types h⟩)

/-- What the tables say of the declared types tells which fields of the model are unmapped. -/
theorem filter_isUnmapped_congr (hm : other.model structName declared = .ok model)
    (htypes : ∀ field ∈ declared,
      generator.types.get? field.sourceType = other.types.get? field.sourceType) :
    model.fields.filter generator.isUnmapped = model.fields.filter other.isUnmapped := by
  obtain ⟨policy, -, hbuild⟩ := model_eq_ok_iff.1 hm
  obtain ⟨-, hfields⟩ := SchemaModel.exists_of_build hbuild
  refine List.filter_congr fun field hf => ?_
  obtain ⟨d, hd, rfl⟩ := hfields field hf
  unfold isUnmapped
  rw [SchemaField.sourceType_ofDescriptor]
  show (!_ && !(generator.types.get? _).isSome) = (!_ && !(other.types.get? _).isSome)
  rw [htypes d hd]

end Generator

namespace Nest

variable {settings : Settings} {own laid : SchemaOptions} {types others : TypeTable}
  {structName indent : String}

theorem file_congr (h : own.flags = laid.flags) (commented : Bool) (indent : String)
    (model : SchemaModel) : file commented own indent model = file commented laid indent model := by
  have hclass : own.classOptions = laid.classOptions := by
    simp only [SchemaOptions.flags, List.cons.injEq, Prod.mk.injEq, true_and, and_true] at h
    obtain ⟨hid, htimestamps, hvirtuals, hversion⟩ := h
    unfold SchemaOptions.classOptions SchemaOptions.serialization
    rw [hid, htimestamps, hvirtuals, hversion]
  unfold file
  rw [hclass]

/-- Generators whose options have the same flags and whose tables say the same of every name give
the same. -/
theorem generate_congr (hflags : own.flags = laid.flags)
    (htypes : ∀ name, Token.IsIdent name → types.get? name = others.get? name) (options : Value)
    (structName body : String) :
    (assembled settings own types).generate structName body =
      (assembled { settings with targetOptions := options } laid others).generate structName
        body := by
  let made := assembled settings own types
  let other := assembled { settings with targetOptions := options } laid others
  have hdeclared : ∀ field ∈ (StructBody.read body).fields,
      types.get? field.sourceType = others.get? field.sourceType :=
    fun field hf => htypes _ (StructBody.isIdent_sourceType hf)
  have hmodel : made.model structName (StructBody.read body).fields =
      other.model structName (StructBody.read body).fields :=
    Generator.model_congr rfl rfl hdeclared
  have hemit : ∀ model, made.emit model = other.emit model := by
    intro model
    show emit settings own Templates.own model =
      emit { settings with targetOptions := options } laid Templates.own model
    unfold emit
    rw [funext fun indent => congrArg Templates.own.layOut (file_congr hflags _ indent model)]
  show made.generate structName body = other.generate structName body
  unfold Generator.generate Generator.attempt
  rw [hmodel]
  cases hm : other.model structName (StructBody.read body).fields with
  | error fault => rfl
  | ok model =>
    have hartifact : ∀ code, made.artifact model (StructBody.read body).issues code =
        other.artifact model (StructBody.read body).issues code := by
      intro code
      unfold Generator.artifact Generator.warnings
      rw [Generator.filter_isUnmapped_congr hm hdeclared]
      rfl
    show Except.mapError _ (made.emit model >>= _) = Except.mapError _ (other.emit model >>= _)
    rw [hemit, funext fun code => congrArg Except.ok (hartifact code)]

/-- Settings that name a policy and an indentation, without which nothing is written. -/
def CanWrite (settings : Settings) : Prop :=
  (∃ policy, DuplicatePolicy.ofValue? settings.duplicateFields = some policy) ∧
    ∃ indent, indentation settings.indentSize = .ok indent

/-- Where nothing can be written, the options do not matter. -/
theorem generate_of_not_canWrite (h : ¬ CanWrite settings) (options : Value)
    (structName body : String) :
    (assembled settings own types).generate structName body =
      (assembled { settings with targetOptions := options } laid others).generate structName
        body := by
  let made := assembled settings own types
  let other := assembled { settings with targetOptions := options } laid others
  have hemit : ∀ model, made.model structName (StructBody.read body).fields = .ok model →
      ∃ fault, ∀ model, made.emit model = .error fault ∧ other.emit model = .error fault := by
    intro model hm
    obtain ⟨policy, hp, -⟩ := Generator.model_eq_ok_iff.1 hm
    have hnone : ¬ ∃ indent, indentation settings.indentSize = .ok indent :=
      fun hi => h ⟨⟨policy, hp⟩, hi⟩
    obtain ⟨fault, hfault⟩ := Outcome.exists_error_iff.2 hnone
    refine ⟨fault, fun model => ⟨?_, ?_⟩⟩
    · exact Outcome.bind_eq_error_iff.2 (.inl hfault)
    · exact Outcome.bind_eq_error_iff.2 (.inl hfault)
  show made.generate structName body = other.generate structName body
  unfold Generator.generate Generator.attempt
  cases hm : made.model structName (StructBody.read body).fields with
  | error fault =>
    have hsame : other.model structName (StructBody.read body).fields = .error fault :=
      Generator.model_error_congr made other rfl rfl hm
    rw [hsame]
    rfl
  | ok model =>
    obtain ⟨fault, hemit⟩ := hemit model hm
    cases ho : other.model structName (StructBody.read body).fields with
    | error refusal =>
      have hsame : made.model structName (StructBody.read body).fields = .error refusal :=
        Generator.model_error_congr other made rfl rfl ho
      rw [hm] at hsame
      cases hsame
    | ok found =>
      show Except.mapError _ (made.emit model >>= _) = Except.mapError _ (other.emit found >>= _)
      rw [(hemit model).1, (hemit found).2]
      rfl

/-! ## What classes tell of options -/

/-- The generator makes the class of a body of lines whose fields have distinct names. -/
theorem generate_assembled (hpolicy : ∃ policy,
      DuplicatePolicy.ofValue? settings.duplicateFields = some policy)
    (hindent : indentation settings.indentSize = .ok indent) {lines : List BodyLine}
    (hnames : ((BodyLine.fields lines).map (·.bsonName)).Nodup) (structName : String) :
    (assembled settings own types).generate structName (BodyLine.print lines) =
      .ok ((assembled settings own types).artifact (Generator.printedModel types structName lines)
        [] (file settings.addComments.isTruthy own indent
          (Generator.printedModel types structName lines)).text) := by
  have hnamed : settings.duplicateFields = .str "error" ∨
      settings.duplicateFields = .str "last_wins" := by
    obtain ⟨policy, hp⟩ := hpolicy
    exact (Generator.ofValue?_eq_some_iff.1 hp).imp And.left And.left
  refine Generator.generate_eq_ok_iff.2 ⟨_, _, Generator.model_print rfl hnamed structName hnames,
    emit_own hindent own _, ?_⟩
  rw [BodyLine.read_print]
  rfl

/-- The class without members tells the flags. -/
theorem flags_of_code (hown : own.check = .ok ()) (hlaid : laid.check = .ok ())
    (hindent : indentation settings.indentSize = .ok indent) {commented : Bool}
    (h : tidy (file commented own indent ⟨"A", []⟩).text =
      tidy (file commented laid indent ⟨"A", []⟩).text) : own.flags = laid.flags := by
  have hoptions : ∀ {options : SchemaOptions}, options.check = .ok () →
      (file commented options indent ⟨"A", []⟩).IsTidy := fun hcheck =>
    isTidy_file hcheck hindent (List.all_eq_true.1 (by decide)) (fun _ => by decide)
      fun field hf => by cases hf
  have honeLine : ∀ {options : SchemaOptions}, options.check = .ok () →
      ∀ line ∈ (file commented options indent ⟨"A", []⟩).opening, IsOneLine line := by
    intro options hcheck line hl
    rw [← (hoptions hcheck).tidied_opening] at hl
    exact isOneLine_of_mem_tidied hl
  have hopening : (file commented own indent ⟨"A", []⟩).opening =
      (file commented laid indent ⟨"A", []⟩).opening := by
    rw [(hoptions hown).tidy_text_eq, (hoptions hlaid).tidy_text_eq] at h
    have hlines : unlines (file commented own indent ⟨"A", []⟩).lines =
        unlines (file commented laid indent ⟨"A", []⟩).lines := h
    simp only [SchemaFile.lines_eq, unlines_append] at hlines
    exact unlines_inj (honeLine hown) (honeLine hlaid) ((String.append_left_inj _).1 hlines)
  have hclass : (file commented own indent ⟨"A", []⟩).options.flatMap
        (SchemaFile.optionLines indent) =
      (file commented laid indent ⟨"A", []⟩).options.flatMap (SchemaFile.optionLines indent) := by
    unfold SchemaFile.opening at hopening
    exact List.append_cancel_left (List.append_cancel_right hopening)
  simp only [file, SchemaOptions.classOptions, SchemaOptions.serialization, ClassOption.map,
    SchemaFile.optionLines, List.map_cons, List.map_nil, List.flatMap_cons, List.flatMap_nil,
    List.cons_append, List.nil_append, List.append_nil, List.cons.injEq, String.append_left_inj,
    String.append_right_inj, true_and, and_true] at hclass
  obtain ⟨hid, htimestamps, hvirtuals, hversion, -⟩ := hclass
  have hflags := flags_of_check hown
  have hothers := flags_of_check hlaid
  simp only [SchemaOptions.flags, List.forall_mem_cons] at hflags hothers
  obtain ⟨hidFlag, htimestampsFlag, hvirtualsFlag, hversionFlag, -⟩ := hflags
  obtain ⟨hidOther, htimestampsOther, hvirtualsOther, hversionOther, -⟩ := hothers
  unfold SchemaOptions.flags
  rw [Value.eq_of_expression hidFlag hidOther hid,
    Value.eq_of_expression htimestampsFlag htimestampsOther htimestamps,
    Value.eq_of_expression hvirtualsFlag hvirtualsOther hvirtuals,
    Value.eq_of_expression hversionFlag hversionOther hversion]

/-- The line of one field whose type is a name. -/
def typedLine (type : String) (h : Token.IsIdent type) : BodyLine where
  field := some
    { lead := "  ", goName := "A", gap := "  ", type := type, typeGap := "  "
      jsonName := "a", jsonOptional := false, bsonName := "a", bsonOptional := false
      more := []
      isSkipped_lead := List.all_iff_forall_prop.1 rfl
      isNameStart_head := ⟨'A', rfl, rfl⟩
      isWordChar_goName := List.all_iff_forall_prop.1 rfl
      gap_ne_empty := by decide
      isSkipped_gap := List.all_iff_forall_prop.1 rfl
      isPlain_type := by
        rw [h.scan_eq]
        exact List.forall_mem_singleton.2 rfl
      isIdent_type := by
        rw [h.scan_eq]
        exact ⟨_, rfl, rfl⟩
      isSkipped_typeGap := List.all_iff_forall_prop.1 rfl
      jsonName_ne_empty := by decide
      isWordChar_jsonName := List.all_iff_forall_prop.1 rfl
      bsonName_ne_empty := by decide
      isWordChar_bsonName := List.all_iff_forall_prop.1 rfl
      valid_more := List.forall_mem_nil _
      raw_more := List.forall_mem_nil _ }
  margin := BodyLine.emptyLine.margin

/-- A field whose types are `target`. -/
def typedField (target type : String) : SchemaField :=
  ⟨"a", target, target, true, [], none, some type⟩

/-- The model of the field. -/
def typedModel (target type : String) : SchemaModel := ⟨"A", [typedField target type]⟩

/-- The field that the line declares has its types from the table. -/
theorem printedModel_typedLine {type : String} (h : Token.IsIdent type) (types : TypeTable) :
    Generator.printedModel types "A" [typedLine type h] =
      typedModel (types.resolve type) type := by
  have hdeclared : BodyLine.descriptors 1 [typedLine type h] =
      [⟨"a", type, true, some "A", some 1⟩] := by
    have hname : ((Token.scan type).getLast?.map (·.value)).getD "" = type := by
      rw [h.scan_eq]
      rfl
    show [(⟨"a", ((Token.scan type).getLast?.map (·.value)).getD "", true, some "A", some 1⟩ :
      FieldDescriptor)] = _
    rw [hname]
  have hrule : OverrideRule.first? OverrideRule.standard ⟨"a", type, true, some "A", some 1⟩ =
      none := by cbv
  unfold Generator.printedModel
  rw [hdeclared, List.map_singleton]
  unfold SchemaField.ofDescriptor
  rw [hrule]
  rfl

theorem tidy_text_typedModel (commented : Bool) (options : SchemaOptions)
    (hindent : IsOneLine indent) (target type : String) :
    tidy (file commented options indent (typedModel target type)).text =
      unlines (tidied (file commented options indent (typedModel target type)).opening)
        ++ unlines (SchemaFile.memberLines indent (property commented (typedField target type)))
        ++ unlines (tidied (SchemaFile.closing "A")) := by
  rw [SchemaFile.tidy_text_members _ hindent]
  show unlines (tidied (file commented options indent (typedModel target type)).opening
    ++ [""].intercalate
      [SchemaFile.memberLines indent (property commented (typedField target type))]
    ++ tidied (SchemaFile.closing "A")) = _
  rw [List.intercalate_singleton, unlines_append, unlines_append]

/-- The class of one field tells the types of the field. -/
theorem target_of_code {options : SchemaOptions} {commented : Bool} {target found type : String}
    (hindent : IsOneLine indent) (ht : IsOneLine target) (hf : IsOneLine found)
    (h : tidy (file commented options indent (typedModel target type)).text =
      tidy (file commented options indent (typedModel found type)).text) : target = found := by
  have honeLine : ∀ target, ∀ line ∈ SchemaFile.memberLines indent
      (property commented (typedField target type)), IsOneLine line := by
    intro target line hl
    rw [← SchemaFile.tidied_propertyLines] at hl
    exact isOneLine_of_mem_tidied hl
  have hdeclared : ∀ target, IsOneLine target → ∃ front,
      SchemaFile.memberLines indent (property commented (typedField target type)) =
        front ++ [indent ++ PropertyKey.ofName "a" ++ ": " ++ target ++ ";"] := by
    intro target ht
    have htype : IsOneLine (typedField target type).tsType := ht
    have hname : IsOneLine (typedField target type).name := (by decide : IsOneLine "a")
    exact ⟨_, (SchemaField.memberLines_eq_iff hindent htype commented).2 hname⟩
  have hopening : (file commented options indent (typedModel target type)).opening =
      (file commented options indent (typedModel found type)).opening := rfl
  rw [tidy_text_typedModel _ _ hindent, tidy_text_typedModel _ _ hindent, hopening,
    String.append_left_inj, String.append_right_inj] at h
  have hmember := unlines_inj (honeLine target) (honeLine found) h
  obtain ⟨front, hfront⟩ := hdeclared target ht
  obtain ⟨other, hother⟩ := hdeclared found hf
  rw [hfront, hother] at hmember
  have hline := List.singleton_inj.1 (List.append_inj_right' hmember rfl)
  exact (String.append_right_inj _).1 ((String.append_left_inj _).1 hline)

/-- There is no warning about the class of one field exactly if the table holds its type. -/
theorem warnings_typedModel (settings : Settings) (own : SchemaOptions) (types : TypeTable)
    (target type : String) : (assembled settings own types).warnings (typedModel target type) [] =
      [] ↔ types.contains type = true := by
  have hname : ClassName.warnings "A" = [] := by decide
  have hunmapped : (assembled settings own types).isUnmapped (typedField target type) =
      !types.contains type := rfl
  unfold Generator.warnings
  show [] ++ ([typedField target type].filter (assembled settings own types).isUnmapped).map _
    ++ [] ++ ClassName.warnings "A" = [] ↔ _
  rw [hname, List.filter_cons, hunmapped]
  cases types.contains type with
  | true => simp
  | false => simp

/-- The artifact of one field whose type is a name tells what the table says of the name. -/
theorem get?_of_artifact {options : Value} {name : String} (hindent : IsOneLine indent)
    (hflags : own.flags = laid.flags) (hname : Token.IsIdent name)
    (htypes : ∀ source target, types.get? source = some target → IsOneLine target)
    (hothers : ∀ source target, others.get? source = some target → IsOneLine target)
    {commented : Bool} (h : (assembled settings own types).artifact
        (typedModel (types.resolve name) name) []
        (file commented own indent (typedModel (types.resolve name) name)).text =
      (assembled { settings with targetOptions := options } laid others).artifact
        (typedModel (others.resolve name) name) []
        (file commented laid indent (typedModel (others.resolve name) name)).text) :
    types.get? name = others.get? name := by
  have honeLine : ∀ {table : TypeTable},
      (∀ source target, table.get? source = some target → IsOneLine target) →
      IsOneLine (table.resolve name) := by
    intro table htable
    unfold TypeTable.resolve
    cases hg : table.get? name with
    | none => exact hname.isOneLine
    | some target => exact htable name target hg
  have hcode := congrArg Artifact.code h
  have hwarnings := congrArg Artifact.warnings h
  refine TypeTable.get?_eq_of_resolve ?_ ?_
  · rw [file_congr hflags] at hcode
    exact target_of_code hindent (honeLine htypes) (honeLine hothers) hcode
  · change (assembled settings own types).warnings _ [] =
      (assembled { settings with targetOptions := options } laid others).warnings _ [] at hwarnings
    rw [Bool.eq_iff_iff, ← warnings_typedModel settings own types _ name, hwarnings,
      warnings_typedModel]

/-- Generators that give the same for a body of lines give the same artifact. -/
theorem artifact_of_generate {options : Value} (hpolicy : ∃ policy,
      DuplicatePolicy.ofValue? settings.duplicateFields = some policy)
    (hindent : indentation settings.indentSize = .ok indent) {lines : List BodyLine}
    (h : (assembled settings own types).generate "A" (BodyLine.print lines) =
      (assembled { settings with targetOptions := options } laid others).generate "A"
        (BodyLine.print lines))
    (hnames : ((BodyLine.fields lines).map (·.bsonName)).Nodup) :
    (assembled settings own types).artifact (Generator.printedModel types "A" lines) []
        (file settings.addComments.isTruthy own indent
          (Generator.printedModel types "A" lines)).text =
      (assembled { settings with targetOptions := options } laid others).artifact
        (Generator.printedModel others "A" lines) []
        (file settings.addComments.isTruthy laid indent
          (Generator.printedModel others "A" lines)).text := by
  have hpolicyOther : ∃ policy, DuplicatePolicy.ofValue?
      { settings with targetOptions := options }.duplicateFields = some policy := hpolicy
  rw [generate_assembled hpolicy hindent hnames,
    generate_assembled hpolicyOther hindent hnames] at h
  exact Except.ok.inj h

theorem flags_of_generate {options : Value} (hwrite : CanWrite settings)
    (hown : own.check = .ok ()) (hlaid : laid.check = .ok ())
    (h : (assembled settings own types).generate "A" "" =
      (assembled { settings with targetOptions := options } laid others).generate "A" "") :
    own.flags = laid.flags := by
  obtain ⟨hpolicy, indent, hindent⟩ := hwrite
  have hprint : BodyLine.print [] = "" := rfl
  have hnone : ∀ types, Generator.printedModel types "A" [] = ⟨"A", []⟩ := fun _ => rfl
  rw [← hprint] at h
  have hempty := congrArg Artifact.code (artifact_of_generate hpolicy hindent h List.nodup_nil)
  rw [hnone, hnone] at hempty
  exact flags_of_code hown hlaid hindent hempty

/-- Tables on one line each of generators that give the same for every body say the same of every
name. -/
theorem get?_of_generate {options : Value} {name : String} (hwrite : CanWrite settings)
    (hflags : own.flags = laid.flags) (hname : Token.IsIdent name)
    (htypes : ∀ source target, types.get? source = some target → IsOneLine target)
    (hothers : ∀ source target, others.get? source = some target → IsOneLine target)
    (h : ∀ body, (assembled settings own types).generate "A" body =
      (assembled { settings with targetOptions := options } laid others).generate "A" body) :
    types.get? name = others.get? name := by
  obtain ⟨hpolicy, indent, hindent⟩ := hwrite
  have hline := artifact_of_generate hpolicy hindent
    (h (BodyLine.print [typedLine name hname])) (List.nodup_singleton "a")
  rw [printedModel_typedLine, printedModel_typedLine] at hline
  exact get?_of_artifact (isOneLine_indentation hindent) hflags hname htypes hothers hline

/-! ## Options beside settings -/

variable {store : FileStore} {explicit options : Dictionary Value} {from? : Option Path}
  {wanted : Generator}

theorem exists_entries_of_load
    (hload : Settings.load store language explicit from? = .ok settings) :
    ∃ entries, settings.targetOptions = .object entries := by
  obtain ⟨value, hvalue, hadmits⟩ :=
    Settings.isTyped_of_load hload Settings.optionsName .object (by decide)
  obtain rfl : settings.targetOptions = value := Option.some.inj hvalue
  cases hoptions : settings.targetOptions with
  | object entries => exact ⟨entries, rfl⟩
  | _ =>
    rw [hoptions] at hadmits
    cases hadmits

/-- **Options beside settings.** Typed options alone are laid over the standard ones. Beside
settings they are left aside. What the settings make gives for every declaration what the options
laid over theirs would, if the flags among the options are those of the settings and the type table
says the same of every name with the options as without, or if nothing can be written at all. Only
then does it, so far as the table holds types on one line each. -/
theorem make_beside (hload : Settings.load store language explicit from? = .ok settings)
    (ho : SchemaOptions.AreTyped options)
    (hwanted : generator (settings.withTargetOptions options) = .ok wanted) :
    (∃ standard made, Settings.load store language [] none = .ok standard ∧
      generator (standard.withTargetOptions options) = .ok made ∧
      make none options = .ok made) ∧
    make (some settings) options = generator settings ∧
    ∀ made own, generator settings = .ok made →
      SchemaOptions.ofValue settings.targetOptions = .ok own →
      ((CanWrite settings →
          (∀ flag ∈ own.flags, ∀ value, options.get? flag.1 = some value → value = flag.2) ∧
          ∀ name, Token.IsIdent name → made.types.get? name = wanted.types.get? name) →
        ∀ structName body,
          made.generate structName body = wanted.generate structName body) ∧
      ((∀ structName body, made.generate structName body = wanted.generate structName body) →
        CanWrite settings →
          (∀ flag ∈ own.flags, ∀ value, options.get? flag.1 = some value → value = flag.2) ∧
          ((∀ source target, made.types.get? source = some target ∨
              wanted.types.get? source = some target → IsOneLine target) →
            ∀ name, Token.IsIdent name →
              made.types.get? name = wanted.types.get? name)) := by
  refine ⟨?_, make_some settings ho, fun made own hmade hoptions => ?_⟩
  · obtain ⟨hmake, made, hmade⟩ := make_none ho
    have hstandard : Settings.load store language [] none = .ok Settings.standardNest :=
      Settings.ofLayers_options ⟨List.nodup_nil, by simp⟩
    exact ⟨_, made, hstandard, hmake.symm.trans hmade, hmade⟩
  obtain ⟨entries, hentries⟩ := exists_entries_of_load hload
  obtain ⟨hlaid, others, -, rfl⟩ := (generator_eq_ok_iff
    (Settings.targetOptions_withTargetOptions hentries options)).1 hwanted
  obtain ⟨hown, types, -, rfl⟩ := (generator_eq_ok_iff hentries).1 hmade
  obtain rfl : SchemaOptions.ofEntries entries = own := by
    rw [hentries] at hoptions
    exact Except.ok.inj hoptions
  rw [← SchemaOptions.flags_merge_eq_iff ho]
  constructor
  · intro hagree
    by_cases hwrite : CanWrite settings
    · exact generate_congr (hagree hwrite).1 (hagree hwrite).2 _
    · exact generate_of_not_canWrite hwrite _
  · intro hsame hwrite
    have hflags := flags_of_generate hwrite hown hlaid (hsame "A" "")
    exact ⟨hflags, fun hlines name hname => get?_of_generate hwrite hflags hname
      (fun source target h => hlines source target (.inl h))
      (fun source target h => hlines source target (.inr h)) (hsame "A")⟩

/-- Options that say what the settings say count beside them. -/
theorem make_beside_noTimestamps :
    let options : Dictionary Value := [("timestamps", .bool false)]
    ∃ settings made wanted, Settings.load ⟨[]⟩ language options none = .ok settings ∧
      make (some settings) options = .ok made ∧
      generator (settings.withTargetOptions options) = .ok wanted ∧
      ∀ structName body, made.generate structName body = wanted.generate structName body := by
  intro options
  have ho : SchemaOptions.AreTyped options := ⟨by decide, by decide⟩
  have hload : Settings.load ⟨[]⟩ language options none =
      .ok (Settings.standardNest.withTargetOptions options) := Settings.ofLayers_options ho
  generalize hsettings : Settings.standardNest.withTargetOptions options = settings at hload
  obtain ⟨made, hmade, htypes⟩ : ∃ made, generator settings = .ok made ∧
      made.types = TypeTable.primitive := by
    rw [← hsettings]
    exact ⟨_, rfl, rfl⟩
  obtain ⟨wanted, hwanted, hothers⟩ : ∃ wanted,
      generator (settings.withTargetOptions options) = .ok wanted ∧
        wanted.types = TypeTable.primitive := by
    rw [← hsettings]
    exact ⟨_, rfl, rfl⟩
  have hown : SchemaOptions.ofValue settings.targetOptions =
      .ok { timestamps := .bool false } := by
    rw [← hsettings]
    rfl
  obtain ⟨-, hmake, hcounts⟩ := make_beside hload ho hwanted
  refine ⟨settings, made, wanted, hload, hmake.trans hmade, hwanted,
    (hcounts made _ hmade hown).1 fun _ => ⟨?_, fun name _ => by rw [htypes, hothers]⟩⟩
  simp [options, SchemaOptions.flags, Dictionary.get?_cons]

/-- An option beside settings that say otherwise is lost. -/
theorem option_lost_beside_settings :
    let options : Dictionary Value := [("timestamps", .bool false)]
    ∃ settings made wanted, Settings.load ⟨[]⟩ language [] none = .ok settings ∧
      make (some settings) options = .ok made ∧
      generator (settings.withTargetOptions options) = .ok wanted ∧
      made.generate "A" "" ≠ wanted.generate "A" "" := by
  intro options
  refine ⟨Settings.standardNest, assembled Settings.standardNest {} TypeTable.primitive,
    assembled (Settings.standardNest.withTargetOptions options) { timestamps := .bool false }
      TypeTable.primitive, rfl, rfl, rfl, fun h => ?_⟩
  have hwrite : CanWrite Settings.standardNest := ⟨⟨.refuse, rfl⟩, "  ", rfl⟩
  have hflags := flags_of_generate hwrite rfl rfl h
  simp [SchemaOptions.flags] at hflags

end Nest

end StructSchema
