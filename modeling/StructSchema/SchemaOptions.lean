import StructSchema.SchemaFile.Context
import StructSchema.Settings

/-!
# Options of the schema class

The target options that shape the class: four flags and further entries of the type table.
Others are ignored. Options of the wrong type are problems, which `problems` lists.
-/

namespace StructSchema

/-- The options of the schema class. -/
structure SchemaOptions where
  schemaId : Value := .bool true
  timestamps : Value := .bool true
  virtuals : Value := .bool true
  versionKey : Value := .bool false
  typeMap : Value := .object []
  deriving Repr

namespace SchemaOptions

/-- The options among entries. -/
def ofEntries (entries : Dictionary Value) : SchemaOptions :=
  let standard : SchemaOptions := {}
  { schemaId := entries.getD "schema_id" standard.schemaId
    timestamps := entries.getD "timestamps" standard.timestamps
    virtuals := entries.getD "virtuals" standard.virtuals
    versionKey := entries.getD "version_key" standard.versionKey
    typeMap := entries.getD "type_map" standard.typeMap }

/-- The options that target options hold. -/
def ofValue : Value → Except Fault SchemaOptions
  | .object entries => .ok (ofEntries entries)
  | other => .error (.misuse (.noAttribute other.kind "items"))

/-- The options with the names they go by. -/
def toEntries (options : SchemaOptions) : Dictionary Value :=
  [("schema_id", options.schemaId), ("timestamps", options.timestamps),
    ("virtuals", options.virtuals), ("version_key", options.versionKey),
    ("type_map", options.typeMap)]

/-- How documents are serialized. -/
def serialization (options : SchemaOptions) : List (String × Value) :=
  [("virtuals", options.virtuals), ("versionKey", options.versionKey)]

/-- The options of the class in order. -/
def classOptions (options : SchemaOptions) : List (String × ClassOption Value) :=
  [("id", .plain options.schemaId), ("timestamps", .plain options.timestamps),
    ("toJSON", .group options.serialization), ("toObject", .group options.serialization)]

/-- The flags with the names they go by. -/
def flags (options : SchemaOptions) : List (String × Value) :=
  [("schema_id", options.schemaId), ("timestamps", options.timestamps),
    ("virtuals", options.virtuals), ("version_key", options.versionKey)]

/-- The options of the wrong type. -/
def problems (options : SchemaOptions) : List String :=
  (options.flags.filter (·.2.kind ≠ .bool)).map (fun flag => flag.1 ++ " should be true or false")
    ++ if options.typeMap.kind = .object then [] else ["type_map must be an object"]

/-- Refuses options of the wrong type. -/
def check (options : SchemaOptions) : Except Fault Unit :=
  match options.problems with
  | [] => .ok ()
  | problems => .error (.settings (.invalidOptions problems))

end SchemaOptions

end StructSchema
