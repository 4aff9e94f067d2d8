import StructSchema.SchemaFile.Context
import StructSchema.Settings
import StructSchema.StructBlock
import StructSchema.StructBody
import StructSchema.Text.Tidy

/-!
# Generators

A generator turns the body of a declaration into code: the fields are read, placed in a model,
checked for doubts, and the model is written and tidied. The result is an artifact or a failure
with its cause. `attempt_ok_iff` says when there is an artifact, and which.
-/

namespace StructSchema

/-- Code with what is known about it. -/
structure Artifact where
  code : String
  warnings : List String
  language : String
  structName : String
  outputFile : String
  fieldCount : Nat
  overrideFields : List String
  skippedFields : Nat
  deriving DecidableEq, Repr

/-- Why a declaration gave no code. -/
structure GenerationFailure where
  structName : String
  cause : Fault
  deriving DecidableEq, Repr

/-- The wording of a failed generation. -/
def GenerationFailure.message (failure : GenerationFailure) : String :=
  s!"Code generation failed for {failure.structName}: {failure.cause.message}"

/-- A generator: the names it goes by, its settings and tables, the templates it has, how it writes
a model, and what it has to say about the name of a class. -/
structure Generator where
  className : String
  language : String
  settings : Settings
  types : TypeTable
  rules : List OverrideRule
  templates : List String
  emit : SchemaModel → Except Fault String
  nameWarnings : String → List String

namespace Generator

/-- The suffix of generated files. -/
def fileExtension (generator : Generator) : Value := generator.settings.fileSuffix

/-- The name of the file for a model. -/
def outputFile (generator : Generator) (model : SchemaModel) : String :=
  model.outputName ++ generator.fileExtension.display

/-- Whether a generator has a template. -/
def hasTemplate (generator : Generator) (name : String) : Bool := generator.templates.contains name

/-- A template without named values; none of a generator's own can do without them. -/
def renderBare (generator : Generator) (name : String) : Except Fault String :=
  if generator.hasTemplate name then SchemaFile.Context.render []
  else .error (.template name (.unknown name))

/-- The policy for repeated names. -/
def policy (generator : Generator) : Except Fault DuplicatePolicy :=
  match DuplicatePolicy.ofValue? generator.settings.duplicateFields with
  | some policy => .ok policy
  | none => .error (.generation (.invalidPolicy generator.settings.duplicateFields.display))

/-- The model of declared fields. -/
def model (generator : Generator) (structName : String) (declared : List FieldDescriptor) :
    Except Fault SchemaModel := do
  let policy ← generator.policy
  SchemaModel.build structName declared generator.types generator.rules policy

/-- Whether the types of a field come neither from a rule nor from the type table. -/
def isUnmapped (generator : Generator) (field : SchemaField) : Bool :=
  !field.isOverride && !(field.sourceType.elim false generator.types.contains)

/-- The warnings about a model and the issues of its body. -/
def warnings (generator : Generator) (model : SchemaModel) (issues : List FieldIssue) :
    List String :=
  (if model.fields.isEmpty then [s!"Schema '{model.structName}' has no fields"] else [])
  ++ ((model.fields.filter generator.isUnmapped).map fun field =>
    s!"Unmapped type '{field.sourceType.getD (Value.null.display)}' in "
      ++ s!"{model.structName}.{field.name}; emitted verbatim")
  ++ (issues.map fun issue => s!"Skipped field in {model.structName}: {issue.toString}")
  ++ generator.nameWarnings model.structName

/-- The artifact of a model with its code. -/
def artifact (generator : Generator) (model : SchemaModel) (issues : List FieldIssue)
    (code : String) : Artifact where
  code := Text.tidy code
  warnings := generator.warnings model issues
  language := generator.language
  structName := model.structName
  outputFile := generator.outputFile model
  fieldCount := model.fields.length
  overrideFields := (model.fields.filter (·.isOverride)).map (·.name)
  skippedFields := issues.length

/-- The artifact of the body of a declaration, or the fault that prevents it. -/
def attempt (generator : Generator) (structName : String) (body : StructBody) :
    Except Fault Artifact := do
  let model ← generator.model structName body.fields
  let code ← generator.emit model
  .ok (generator.artifact model body.issues code)

/-- Generates code for the body of a declaration. -/
def generate (generator : Generator) (structName body : String) :
    Except GenerationFailure Artifact :=
  (generator.attempt structName (StructBody.read body)).mapError fun cause => ⟨structName, cause⟩

/-- Generates code for the declarations of a source text. -/
def convertSource (generator : Generator) (source : String) (everyOne : Bool) :
    List (StructBlock × Except GenerationFailure Artifact) :=
  (StructBlock.select source everyOne).map fun block =>
    (block, generator.generate block.name block.body)

/-- There is an artifact exactly when the fields have a model and the model can be written. -/
theorem attempt_ok_iff (generator : Generator) (structName : String) (body : StructBody)
    (made : Artifact) :
    generator.attempt structName body = .ok made ↔
      ∃ model code, generator.model structName body.fields = .ok model ∧
        generator.emit model = .ok code ∧ made = generator.artifact model body.issues code := by
  unfold attempt
  cases hm : generator.model structName body.fields with
  | error fault => simp [bind, Except.bind]
  | ok model =>
    cases he : generator.emit model with
    | error fault => simp [bind, Except.bind, he]
    | ok code => simp [bind, Except.bind, he, eq_comm]

end Generator

end StructSchema
