import StructSchema.OverrideRule
import StructSchema.TypeTable

/-!
# Schema models

The model of a schema is the list of its fields in order. `SchemaModel.build` gives each declared
field its types, from the first rule that applies or from the type table, and puts it into a draft,
which keeps a table of where each name stands. Under `DuplicatePolicy.refuse` a repeated name is a
fault, under `lastWins` the later field is put in the place of the earlier one, which changes no
name: `fieldNames_setAt`.
-/

namespace StructSchema

/-- What to do with a repeated field name. -/
inductive DuplicatePolicy where
  | refuse
  | lastWins
  deriving DecidableEq, Repr

namespace DuplicatePolicy

/-- The policy that a setting names. -/
def ofValue? : Value → Option DuplicatePolicy
  | .str "error" => some .refuse
  | .str "last_wins" => some .lastWins
  | _ => none

/-- The policy that a setting has to name. -/
def ofValue (value : Value) : Except Fault DuplicatePolicy :=
  match ofValue? value with
  | some policy => .ok policy
  | none => .error (.unknownPolicy value.quoted)

end DuplicatePolicy

/-- A field of a schema: its types, whether it must be present, its extra options, the rule that
gave the types, and the source type. -/
structure SchemaField where
  name : String
  schemaType : String
  tsType : String
  required : Bool
  options : List (String × String)
  rule : Option String
  sourceType : Option String
  deriving DecidableEq, Repr

namespace SchemaField

/-- Whether a rule gave the types. -/
def isOverride (field : SchemaField) : Bool := field.rule.isSome

/-- The field of a schema for a declared field. -/
def ofDescriptor (table : TypeTable) (rules : List OverrideRule) (field : FieldDescriptor) :
    SchemaField :=
  match OverrideRule.first? rules field with
  | some rule =>
    ⟨field.name, rule.template.schemaType, rule.template.tsType, field.required,
      rule.template.options, some rule.name, some field.sourceType⟩
  | none =>
    let target := table.resolve field.sourceType
    ⟨field.name, target, target, field.required, [], none, some field.sourceType⟩

end SchemaField

/-- A named list of fields. -/
structure SchemaModel where
  structName : String
  fields : List SchemaField
  deriving DecidableEq, Repr

namespace SchemaModel

/-- The names of the fields in order. -/
def fieldNames (model : SchemaModel) : List String := model.fields.map (·.name)

/-- The first field of a name. -/
def field? (model : SchemaModel) (name : String) : Option SchemaField :=
  model.fields.find? (·.name == name)

/-- The name under which the schema is written. -/
def outputName (model : SchemaModel) : String := Text.lower model.structName

/-- The model with one more field. -/
def add (model : SchemaModel) (field : SchemaField) : SchemaModel :=
  { model with fields := model.fields ++ [field] }

/-- The model with a field in place `i`. -/
def setAt (model : SchemaModel) (i : Nat) (field : SchemaField) : SchemaModel :=
  { model with fields := model.fields.set i field }

/-- A model under construction, and where each name stands among its fields. -/
structure Draft where
  model : SchemaModel
  positions : Dictionary Nat

namespace Draft

/-- The draft of a model without fields. -/
def empty (structName : String) : Draft := ⟨⟨structName, []⟩, []⟩

/-- Puts a field into the draft; a repeated name is treated as the policy says. -/
def put (policy : DuplicatePolicy) (draft : Draft) (field : SchemaField) : Except Fault Draft :=
  match draft.positions.get? field.name with
  | some i =>
    match policy with
    | .refuse => .error (.duplicateField draft.model.structName field.name)
    | .lastWins => .ok { draft with model := draft.model.setAt i field }
  | none =>
    .ok
      { model := draft.model.add field
        positions := draft.positions.insert field.name draft.model.fields.length }

end Draft

/-- The model of declared fields. -/
def build (structName : String) (declared : List FieldDescriptor) (table : TypeTable)
    (rules : List OverrideRule) (policy : DuplicatePolicy) : Except Fault SchemaModel :=
  ((declared.map (SchemaField.ofDescriptor table rules)).foldlM (Draft.put policy)
    (.empty structName)).map (·.model)

@[simp] theorem fieldNames_add (model : SchemaModel) (field : SchemaField) :
    (model.add field).fieldNames = model.fieldNames ++ [field.name] := by
  simp [add, fieldNames]

/-- Putting a field of the same name in a place keeps the names. -/
theorem fieldNames_setAt {model : SchemaModel} {i : Nat} {field : SchemaField}
    (h : model.fieldNames[i]? = some field.name) :
    (model.setAt i field).fieldNames = model.fieldNames := by
  obtain ⟨hi, hname⟩ := List.getElem?_eq_some_iff.1 h
  show (model.fields.set i field).map (·.name) = model.fieldNames
  rw [List.map_set, ← hname]
  exact List.set_getElem_self hi

end SchemaModel

end StructSchema
