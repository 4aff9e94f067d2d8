import Mathlib
import StructSchema.Generator.Nest
import StructSchema.Proofs.FieldPlacement

/-!
# What comes of the body of a declaration

A generator of schema classes that was made can write every model, if its indentation can be made:
`emit_own`. So generation fails only for want of a model, and every tagged statement of the body is
accounted for: `generate_outcome` says when there is an artifact, how many fields and issues it
counts, and which warnings it carries.
-/

namespace StructSchema

namespace Nest

variable {settings : Settings} {table : TypeTable} {rules : List OverrideRule} {made : Generator}
  {indent : String}

/-- A generator that was made follows its settings. -/
theorem generator_ok (h : generator settings table rules = .ok made) :
    made.settings = settings ∧ made.rules = rules ∧ made.nameWarnings = ClassName.warnings ∧
      ∃ options, SchemaOptions.ofValue settings.targetOptions = .ok options ∧
        made.emit = emit settings options Templates.own := by
  unfold generator at h
  obtain ⟨options, ho, h⟩ := Outcome.bind_eq_ok_iff.1 h
  obtain ⟨_, -, h⟩ := Outcome.bind_eq_ok_iff.1 h
  obtain ⟨types, -, h⟩ := Outcome.bind_eq_ok_iff.1 h
  cases h
  exact ⟨rfl, rfl, rfl, options, ho, rfl⟩

/-- Every model can be written. -/
theorem emit_own (hi : indentation settings.indentSize = .ok indent) (options : SchemaOptions)
    (model : SchemaModel) : emit settings options Templates.own model =
      .ok (file settings.addComments.isTruthy options indent model).text := by
  unfold emit
  rw [hi]
  rfl

end Nest

namespace Generator

variable {generator : Generator} {structName body : String} {made : Artifact}
  {model : SchemaModel} {settings : Settings} {table : TypeTable} {rules : List OverrideRule}
  {indent : String}

/-- There is an artifact exactly when the fields have a model and the model can be written. -/
theorem generate_eq_ok_iff : generator.generate structName body = .ok made ↔
    ∃ model code, generator.model structName (StructBody.read body).fields = .ok model ∧
      generator.emit model = .ok code ∧
      made = generator.artifact model (StructBody.read body).issues code :=
  Outcome.mapError_eq_ok_iff.trans (attempt_ok_iff generator structName _ made)

/-- The fields have a model when the settings name a policy that gives one. -/
theorem model_eq_ok_iff {declared : List FieldDescriptor} :
    generator.model structName declared = .ok model ↔
      ∃ policy, DuplicatePolicy.ofValue? generator.settings.duplicateFields = some policy ∧
        SchemaModel.build structName declared generator.types generator.rules policy =
          .ok model := by
  unfold Generator.model Generator.policy
  rw [Outcome.bind_eq_ok_iff]
  cases DuplicatePolicy.ofValue? generator.settings.duplicateFields with
  | none => simp
  | some policy => simp

/-- The names of the two policies. -/
theorem ofValue?_eq_some_iff {value : Value} {policy : DuplicatePolicy} :
    DuplicatePolicy.ofValue? value = some policy ↔
      value = .str "error" ∧ policy = .refuse ∨ value = .str "last_wins" ∧ policy = .lastWins := by
  unfold DuplicatePolicy.ofValue?
  split
  · simp [eq_comm]
  · simp [eq_comm]
  · rename_i h₁ h₂
    constructor
    · intro h
      cases h
    · rintro (⟨hv, -⟩ | ⟨hv, -⟩)
      · exact absurd hv h₁
      · exact absurd hv h₂

/-- When declared fields have a model. -/
theorem exists_model_iff (generator : Generator) (structName : String)
    (declared : List FieldDescriptor) :
    (∃ model, generator.model structName declared = .ok model) ↔
      generator.settings.duplicateFields = .str "last_wins" ∨
        generator.settings.duplicateFields = .str "error" ∧ (declared.map (·.name)).Nodup := by
  simp only [model_eq_ok_iff, ofValue?_eq_some_iff]
  constructor
  · rintro ⟨model, _, ⟨hv, rfl⟩ | ⟨hv, rfl⟩, hb⟩
    · exact .inr ⟨hv, SchemaModel.build_refuse_ok_iff.1 ⟨model, hb⟩⟩
    · exact .inl hv
  · rintro (hv | ⟨hv, hn⟩)
    · obtain ⟨model, hb, -⟩ := SchemaModel.build_lastWins structName declared generator.types
        generator.rules
      exact ⟨model, _, .inr ⟨hv, rfl⟩, hb⟩
    · exact ⟨_, _, .inl ⟨hv, rfl⟩, SchemaModel.build_of_nodup hn⟩

/-- The warning about a field whose types come neither from a rule nor from the type table. -/
def unmappedWarning? (types : TypeTable) (structName : String) (field : SchemaField) :
    Option String :=
  match field.rule, field.sourceType with
  | none, some sourceType =>
    if types.contains sourceType then none
    else some s!"Unmapped type '{sourceType}' in {structName}.{field.name}; emitted verbatim"
  | _, _ => none

theorem map_filter_isUnmapped {fields : List SchemaField}
    (h : ∀ field ∈ fields, ∃ sourceType, field.sourceType = some sourceType) :
    ((fields.filter generator.isUnmapped).map fun field =>
      s!"Unmapped type '{field.sourceType.getD (Value.null.display)}' in "
        ++ s!"{structName}.{field.name}; emitted verbatim") =
      fields.filterMap (unmappedWarning? generator.types structName) := by
  induction fields with
  | nil => rfl
  | cons field fields ih =>
    obtain ⟨⟨sourceType, hs⟩, hrest⟩ := List.forall_mem_cons.1 h
    rw [List.filter_cons, List.filterMap_cons, ← ih hrest]
    unfold isUnmapped SchemaField.isOverride unmappedWarning?
    rw [hs]
    cases field.rule with
    | some rule => rfl
    | none =>
      cases hc : generator.types.contains sourceType with
      | true => simp [hc]
      | false =>
        simp [hc, hs, String.append_assoc]

/-- A generator that was made generates code for every body that has a model. -/
theorem exists_generate_iff (hmade : Nest.generator settings table rules = .ok generator)
    (hindent : Nest.indentation settings.indentSize = .ok indent) (structName body : String) :
    (∃ made, generator.generate structName body = .ok made) ↔
      ∃ model, generator.model structName (StructBody.read body).fields = .ok model := by
  obtain ⟨-, -, -, options, -, hemit⟩ := Nest.generator_ok hmade
  simp only [generate_eq_ok_iff]
  constructor
  · rintro ⟨_, model, _, hm, -, -⟩
    exact ⟨model, hm⟩
  · rintro ⟨model, hm⟩
    have hcode := Nest.emit_own hindent options model
    rw [← hemit] at hcode
    exact ⟨_, model, _, hm, hcode, rfl⟩

/-- The counts of a model under the policy that the settings name. -/
theorem count_of_build {declared : List FieldDescriptor} {policy : DuplicatePolicy}
    (hpolicy : DuplicatePolicy.ofValue? settings.duplicateFields = some policy)
    (h : SchemaModel.build structName declared generator.types generator.rules policy = .ok model) :
    (settings.duplicateFields = .str "error" → model.fields.length = declared.length) ∧
      (settings.duplicateFields = .str "last_wins" →
        model.fields.length = (declared.map (·.name)).toFinset.card) := by
  rw [ofValue?_eq_some_iff] at hpolicy
  constructor
  · intro he
    obtain rfl : policy = .refuse := by
      rw [he] at hpolicy
      simpa using hpolicy
    have hn := SchemaModel.build_refuse_ok_iff.1 ⟨model, h⟩
    rw [SchemaModel.build_of_nodup hn] at h
    cases h
    exact List.length_map _
  · intro hl
    obtain rfl : policy = .lastWins := by
      rw [hl] at hpolicy
      simpa using hpolicy
    exact SchemaModel.length_fields_of_lastWins h

/-- **What comes of a body.** Generation fails exactly for a policy that is none, or for a repeated
name that is an error. Otherwise every tagged statement counts as a field or an issue when names may
not repeat, every name counts once when the last one wins, and the warnings are those about the lack
of fields, the unmapped types, the issues and the name of the class, in this order. -/
theorem generate_outcome
    (hmade : Nest.generator settings table rules = .ok generator)
    (hindent : Nest.indentation settings.indentSize = .ok indent) (structName body : String) :
    ((∃ failure, generator.generate structName body = .error failure) ↔
      settings.duplicateFields ≠ .str "error" ∧ settings.duplicateFields ≠ .str "last_wins" ∨
        settings.duplicateFields = .str "error" ∧
          ¬ ((StructBody.read body).fields.map (·.name)).Nodup) ∧
    ∀ made, generator.generate structName body = .ok made →
      ∃ model, generator.model structName (StructBody.read body).fields = .ok model ∧
        made.fieldCount = model.fields.length ∧
        made.skippedFields = (StructBody.read body).issues.length ∧
        (settings.duplicateFields = .str "error" →
          made.fieldCount + made.skippedFields = (StructBody.taggedStatements body).length) ∧
        (settings.duplicateFields = .str "last_wins" →
          made.fieldCount = ((StructBody.read body).fields.map (·.name)).toFinset.card) ∧
        made.warnings =
          (if made.fieldCount = 0 then [s!"Schema '{structName}' has no fields"] else [])
          ++ model.fields.filterMap (unmappedWarning? generator.types structName)
          ++ ((StructBody.read body).issues.map fun issue =>
            s!"Skipped field in {structName}: {issue.toString}")
          ++ ClassName.warnings structName := by
  obtain ⟨hs, -, hnames, -⟩ := Nest.generator_ok hmade
  constructor
  · rw [Outcome.exists_error_iff, exists_generate_iff hmade hindent, exists_model_iff, hs]
    by_cases he : settings.duplicateFields = .str "error"
    · simp [he]
    · simp [he]
  · intro made h
    obtain ⟨model, code, hm, -, rfl⟩ := generate_eq_ok_iff.1 h
    obtain ⟨policy, hp, hb⟩ := model_eq_ok_iff.1 hm
    rw [hs] at hp
    obtain ⟨hname, hsource⟩ := SchemaModel.sourceType_of_build hb
    obtain ⟨hrefuse, hlast⟩ := count_of_build hp hb
    refine ⟨model, hm, rfl, rfl, fun he => ?_, hlast, ?_⟩
    · show model.fields.length + (StructBody.read body).issues.length = _
      rw [hrefuse he, StructBody.length_fields_add_issues]
    · change generator.warnings model _ = _
      unfold Generator.warnings
      rw [map_filter_isUnmapped hsource, hname, hnames]
      congr 3
      show (if model.fields.isEmpty then _ else _) = if model.fields.length = 0 then _ else _
      simp only [List.isEmpty_iff, List.length_eq_zero_iff]

/-- Of two fields of one name the standard settings make an error, and `last_wins` one field. -/
theorem generate_outcome_repeated_name :
    (∃ generator, Nest.generator {} = .ok generator ∧ ∃ failure,
      generator.generate "User" "A int `json:\"a\" bson:\"n\"`; B bool `json:\"b\" bson:\"n\"`" =
        .error failure) ∧
    ∃ generator made, Nest.generator { duplicateFields := .str "last_wins" } = .ok generator ∧
      generator.generate "User" "A int `json:\"a\" bson:\"n\"`; B bool `json:\"b\" bson:\"n\"`" =
        .ok made ∧ made.fieldCount = 1 := by
  have hnames : (StructBody.read
      "A int `json:\"a\" bson:\"n\"`; B bool `json:\"b\" bson:\"n\"`").fields.map (·.name) =
      ["n", "n"] := by cbv
  have hindent : Nest.indentation (.int 2) = .ok "  " := rfl
  constructor
  · obtain ⟨generator, hg⟩ : ∃ generator, Nest.generator {} = .ok generator := ⟨_, rfl⟩
    refine ⟨generator, hg, (generate_outcome hg hindent _ _).1.2 (.inr ⟨rfl, ?_⟩)⟩
    rw [hnames]
    decide
  · obtain ⟨generator, hg⟩ :
        ∃ generator, Nest.generator { duplicateFields := .str "last_wins" } = .ok generator :=
      ⟨_, rfl⟩
    obtain ⟨hfail, hmade⟩ := generate_outcome hg hindent "User"
      "A int `json:\"a\" bson:\"n\"`; B bool `json:\"b\" bson:\"n\"`"
    cases h : generator.generate "User"
        "A int `json:\"a\" bson:\"n\"`; B bool `json:\"b\" bson:\"n\"`" with
    | error failure =>
      rcases hfail.1 ⟨failure, h⟩ with ⟨-, hpolicy⟩ | ⟨hpolicy, -⟩
      · exact absurd rfl hpolicy
      · simp at hpolicy
    | ok made =>
      obtain ⟨_, _, _, _, _, hcount, -⟩ := hmade made h
      refine ⟨generator, made, hg, h, ?_⟩
      rw [hcount rfl, hnames]
      decide

end Generator

end StructSchema
