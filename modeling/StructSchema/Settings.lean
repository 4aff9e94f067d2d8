import StructSchema.SchemaModel

/-!
# Settings

The settings of a generator, and how they are put together: the defaults of the target, under the
entries of a file, under explicit entries. Of two layers the later one counts for each entry; the
target options, which stand under `language_config` or at the top level, are joined. An entry of
the wrong type is refused. `checkTypes_ok_iff` says which entries pass.
-/

namespace StructSchema

/-- The settings of a generator. Settings that were loaded have the types of
`Settings.declared`. -/
structure Settings where
  outputDir : Value := .str "out_schemas"
  fileSuffix : Value := .str ".schemas.ts"
  indentSize : Value := .int 2
  allStructs : Value := .bool false
  duplicateFields : Value := .str "error"
  addComments : Value := .bool false
  targetOptions : Value := .object []
  deriving Repr

namespace Settings

/-- The types of settings. -/
inductive Expected where
  | text
  | integer
  | flag
  | object
  deriving DecidableEq, Repr

/-- A type in words. -/
def Expected.phrase : Expected → String
  | .text => "a string"
  | .integer => "an integer"
  | .flag => "true or false"
  | .object => "an object"

/-- Whether a value is of a type. -/
def Expected.admits : Expected → Value → Bool
  | .text, .str _ => true
  | .integer, .int _ => true
  | .flag, .bool _ => true
  | .object, .object _ => true
  | _, _ => false

/-- The name of the entry that holds the target options. -/
def optionsName : String := "language_config"

/-- The names of the settings with their types. -/
def declared : List (String × Expected) :=
  [("output_dir", .text), ("file_suffix", .text), ("indent_size", .integer),
    ("all_structs", .flag), ("duplicate_fields", .text), ("add_comments", .flag),
    (optionsName, .object)]

/-- Whether a name is that of a setting. -/
def isDeclared (name : String) : Bool := (declared.lookup name).isSome

/-- Settings as entries. -/
def toEntries (settings : Settings) : Dictionary Value :=
  [("output_dir", settings.outputDir), ("file_suffix", settings.fileSuffix),
    ("indent_size", settings.indentSize), ("all_structs", settings.allStructs),
    ("duplicate_fields", settings.duplicateFields), ("add_comments", settings.addComments),
    (optionsName, settings.targetOptions)]

/-- The settings that entries give; a setting without an entry has its standard value. -/
def ofEntries (entries : Dictionary Value) : Settings :=
  let standard : Settings := {}
  { outputDir := entries.getD "output_dir" standard.outputDir
    fileSuffix := entries.getD "file_suffix" standard.fileSuffix
    indentSize := entries.getD "indent_size" standard.indentSize
    allStructs := entries.getD "all_structs" standard.allStructs
    duplicateFields := entries.getD "duplicate_fields" standard.duplicateFields
    addComments := entries.getD "add_comments" standard.addComments
    targetOptions := entries.getD optionsName standard.targetOptions }

/-- The settings of given fields, whose types are not checked. -/
def ofFields (fields : Dictionary Value) : Except Fault Settings :=
  match fields.find? fun field => !isDeclared field.1 with
  | none => .ok (ofEntries fields)
  | some (name, _) =>
    if name = "self" then .error (.call (.repeatedArgument "GeneratorConfig.__init__" name))
    else .error (.call (.unknownSetting name))

/-- The first entry of the wrong type. -/
def mistyped? (entries : Dictionary Value) : Option (String × Expected × Value) :=
  declared.findSome? fun (name, expected) =>
    match entries.get? name with
    | some value => if expected.admits value then none else some (name, expected, value)
    | none => none

/-- Refuses an entry of the wrong type. -/
def checkTypes (entries : Dictionary Value) : Except Fault Unit :=
  match mistyped? entries with
  | some (name, expected, value) =>
    .error (.settings (.wrongType name expected.phrase value.quoted))
  | none => .ok ()

/-- The entries that a target starts from. -/
def defaults (target : String) : Dictionary Value :=
  if Text.lower target = "nestjs" then
    { ({} : Settings) with
      targetOptions := .object
        [("schema_id", .bool true), ("timestamps", .bool true), ("virtuals", .bool true),
          ("version_key", .bool false), ("type_map", .object [])] }.toEntries
  else []

/-- The targets with defaults of their own. -/
def targets : List String := ["nestjs"]

/-- Lays one entry over a layer; target options are joined with those that are there. -/
def layEntry (base : Dictionary Value) (name : String) (value : Value) :
    Except Fault (Dictionary Value) :=
  match value with
  | .object extra =>
    if name = optionsName then
      match base.getD optionsName (.object []) with
      | .object options => .ok (base.insert optionsName (.object (Dictionary.merge options extra)))
      | other => .error (.misuse (.noAttribute other.kind "update"))
    else .ok (base.insert name value)
  | _ => .ok (base.insert name value)

/-- Lays entries over a layer. -/
def lay (base extra : Dictionary Value) : Except Fault (Dictionary Value) :=
  extra.foldlM (fun base entry => layEntry base entry.1 entry.2) base

/-- The settings of entries, whose types are checked. Entries that are no settings are target
options and count before those under `language_config`. -/
def resolve (entries : Dictionary Value) : Except Fault Settings := do
  checkTypes entries
  let settings := ofEntries entries
  match entries.filter (!isDeclared ·.1), settings.targetOptions with
  | [], _ => .ok settings
  | extra, .object options =>
    .ok { settings with targetOptions := .object (Dictionary.merge options extra) }
  | _, _ => .ok settings

/-- The file that a text names; the empty text names none. -/
def fileOf (name : String) : Option Path := if name = "" then none else some (Path.ofString name)

/-- The entries of a settings file. -/
def readFile (store : FileStore) (path : Path) : Except Fault (Dictionary Value) := do
  if !(← (store.isPresent path).mapError Fault.store) then
    throw (.settings (.fileNotFound path))
  if Text.lower path.suffix ≠ ".json" then throw (.settings (.fileNotJson path))
  let octets ← (store.read path).mapError fun fault => .settings (.unreadable path fault)
  let text ← (Text.Utf8.decode octets).mapError Fault.decoding
  match Json.read (String.ofList (Text.unifyLineEnds text)) with
  | .ok (.object entries) => .ok entries
  | .ok _ => throw (.settings (.notObject path))
  | .error (.malformed problem position line column) =>
    throw (.settings (.invalidJson path (.malformed problem position line column)))
  | .error fault => throw (.json fault)

/-- The settings of a target: its defaults, under the entries of a file, under explicit ones. -/
def ofLayers (target : String) (file explicit : Dictionary Value) : Except Fault Settings := do
  let base ← lay (defaults target) file
  let base ← lay base explicit
  resolve base

/-- The settings of a target from a file, if there is one, and explicit entries. -/
def load (store : FileStore) (target : String) (explicit : Dictionary Value)
    (file : Option Path) : Except Fault Settings :=
  match file with
  | none => ofLayers target [] explicit
  | some path => do
    let entries ← readFile store path
    ofLayers target entries explicit

/-- The doubts about settings of the right types. -/
def doubts (settings : Settings) : List String :=
  (if (DuplicatePolicy.ofValue? settings.duplicateFields).isNone then
    [s!"Invalid duplicate_fields: {settings.duplicateFields.display}"] else [])
  ++ (match settings.indentSize with
    | .int n => if n < 1 then [s!"Invalid indent_size: {n}"] else []
    | _ => [])
  ++ (if settings.fileSuffix.isTruthy then [] else ["file_suffix must not be empty"])
  ++ (match settings.targetOptions with
    | .object options =>
      match Dictionary.getD options "type_map" (.object []) with
      | .object _ => []
      | _ => ["type_map must be a JSON object"]
    | _ => [])

/-- Checks the types of settings and lists the doubts about them. -/
def validate (settings : Settings) : Except Fault (List String) := do
  checkTypes settings.toEntries
  .ok settings.doubts

/-- The entries that pass are those whose settings have their types. -/
theorem checkTypes_ok_iff (entries : Dictionary Value) :
    checkTypes entries = .ok () ↔
      ∀ name expected, (name, expected) ∈ declared →
        ∀ value, entries.get? name = some value → expected.admits value = true := by
  unfold checkTypes
  cases hm : mistyped? entries with
  | some found =>
    simp only [reduceCtorEq, false_iff]
    intro hall
    simp only [mistyped?, List.findSome?_eq_some_iff] at hm
    obtain ⟨_, ⟨name, expected⟩, _, hl, hf, _⟩ := hm
    have hmem : (name, expected) ∈ declared := by rw [hl]; simp
    simp only at hf
    split at hf
    · rename_i value hv
      simp [hall name expected hmem value hv] at hf
    · simp at hf
  | none =>
    simp only [true_iff]
    intro name expected hmem value hv
    simp only [mistyped?, List.findSome?_eq_none_iff] at hm
    have := hm (name, expected) hmem
    simpa [hv] using this

end Settings

end StructSchema
