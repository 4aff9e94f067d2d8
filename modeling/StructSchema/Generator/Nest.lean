import StructSchema.Generator
import StructSchema.PropertyKey
import StructSchema.SchemaOptions
import StructSchema.TemplateLibrary

/-!
# Schema classes

The generator of schema classes. A model becomes a schema file: each field a property whose type is
qualified, each target option an option of the class. `Nest.file` is the file as a document. How it
is laid out is a template; the generator has one of its own and may be given those of a folder.
-/

namespace StructSchema.Nest

/-- The name of the target. -/
def language : String := "nestjs"

/-- The longest text that is ever made. -/
def maxLength : Nat := 0x100000000

/-- The greatest count that can be asked for. -/
def maxCount : Int := 0x7fffffffffffffff

/-- An integer, where a flag counts as one or zero. -/
def count? : Value → Option Int
  | .int n => some n
  | .bool b => some (if b then 1 else 0)
  | _ => none

/-- The indentation that a setting asks for. -/
def indentation (setting : Value) : Except Fault String :=
  match count? setting with
  | none => .error (.misuse (.notCount setting.kind))
  | some n =>
    if n < -maxCount - 1 ∨ maxCount < n then .error .countTooLarge
    else if maxLength < n.toNat then .error .outOfMemory
    else .ok (String.ofList (List.replicate n.toNat ' '))

/-- A schema type as an expression. -/
def typeExpression (schemaType : String) : String := "mongoose.Schema.Types." ++ schemaType

/-- The options of the property of a field. -/
def propertyOptions (field : SchemaField) : List (String × String) :=
  ("type", typeExpression field.schemaType)
    :: (if field.required then [("required", "true")] else []) ++ field.options

/-- The comment on the property of a field. -/
def propertyComment (field : SchemaField) : Option String :=
  match field.sourceType with
  | some "" | none => none
  | some sourceType => some ("source type: " ++ sourceType)

/-- The property of a field. -/
def property (commented : Bool) (field : SchemaField) : SchemaProperty where
  key := PropertyKey.ofName field.name
  type := field.tsType
  options := propertyOptions field
  comment := if commented then propertyComment field else none

/-- The schema file of a model. -/
def file (commented : Bool) (options : SchemaOptions) (indent : String) (model : SchemaModel) :
    SchemaFile where
  className := model.structName
  description := if commented then some ("Generated from Go struct " ++ model.structName) else none
  options := options.classOptions.map fun (key, option) => (key, option.map Value.expression)
  properties := model.fields.map (property commented)
  indent := indent

/-- The templates of a generator: their names, and how the one for schema files lays them out. -/
structure Templates where
  names : List String
  layOut : SchemaFile → Except Fault String

/-- The generator's own templates. -/
def Templates.own : Templates := ⟨[SchemaFile.templateName], fun file => .ok file.text⟩

/-- The templates of a library, whose texts name no values. -/
def Templates.ofLibrary (store : FileStore) (library : TemplateLibrary) : Templates :=
  ⟨library.names store, fun _ => library.render store SchemaFile.templateName⟩

/-- Writes a model as the text of a schema file, if the template for it is there. -/
def emit (settings : Settings) (options : SchemaOptions) (templates : Templates)
    (model : SchemaModel) : Except Fault String := do
  if !templates.names.contains SchemaFile.templateName then
    throw (.generation (.templateMissing SchemaFile.templateName))
  let indent ← indentation settings.indentSize
  templates.layOut (file settings.addComments.isTruthy options indent model)

/-- The generator of schema classes for settings, a type table and rules. -/
def generator (settings : Settings) (table : TypeTable := TypeTable.primitive)
    (rules : List OverrideRule := OverrideRule.standard)
    (templates : Templates := Templates.own) : Except Fault Generator := do
  let options ← SchemaOptions.ofValue settings.targetOptions
  options.check
  let types ← table.withSetting options.typeMap
  .ok
    { className := "NestJSGenerator"
      language := language
      settings := settings
      types := types
      rules := rules
      templates := templates.names
      emit := emit settings options templates
      nameWarnings := ClassName.warnings }

/-- The generator with the templates of a folder in place of its own, and the records of looking
for the folder, which come before anything that may be wrong with the settings. -/
def generatorOver (store : FileStore) (folder : Path) (settings : Settings) (table : TypeTable)
    (rules : List OverrideRule) : List Journal.Record × Except Fault Generator :=
  match TemplateLibrary.ofFolder store (some folder) with
  | .error fault => ([], .error fault)
  | .ok (library, records) =>
    (records, generator settings table rules (.ofLibrary store library))

/-- The generator with the standard settings of the target under given target options. -/
def withOptions (options : Dictionary Value) : Except Fault Generator := do
  let settings ← Settings.ofLayers language [] options
  generator settings

/-- The option that would give the settings themselves. -/
def settingsOption : String := "config"

/-- Makes a generator from settings of its own, which leave no room for target options, or from
target options. -/
def make (own : Option Settings) (options : Dictionary Value) : Except Fault Generator :=
  match own, options.get? settingsOption with
  | some _, some _ =>
    .error (.call (.repeatedArgument "create_nestjs_generator" settingsOption))
  | some settings, none => generator settings
  | none, some .null => withOptions (options.filter (·.1 ≠ settingsOption))
  | none, some given =>
    if given.isTruthy then .error (.misuse (.noAttribute given.kind Settings.optionsName))
    else withOptions []
  | none, none => withOptions options

/-- The generator without timestamps and without serialized virtuals. -/
def minimal : Except Fault Generator :=
  withOptions [("timestamps", .bool false), ("virtuals", .bool false)]

end StructSchema.Nest
