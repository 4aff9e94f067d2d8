import StructSchema.FieldTag
import StructSchema.Glob
import StructSchema.Value.Json
import StructSchema.Value.Shape

/-!
# Faults

Everything that can go wrong, as causes. `Fault.message` words a cause and `Fault.kind` gives the
kind of fault it is; the parts of the library that have causes of their own keep them in an
inductive type of their own.
-/

namespace StructSchema

namespace Fault

/-- Why settings are refused. -/
inductive Settings where
  | wrongType (name expected shown : String)
  | fileNotFound (path : Path)
  | fileNotJson (path : Path)
  | invalidJson (path : Path) (fault : Json.Fault)
  | unreadable (path : Path) (fault : FileStore.Fault)
  | notObject (path : Path)
  | invalidOptions (problems : List String)
  deriving DecidableEq, Repr

/-- The wording of refused settings. -/
def Settings.message : Settings → String
  | .wrongType name expected shown => s!"{name} must be {expected}, got {shown}"
  | .fileNotFound path => s!"Configuration file not found: {path}"
  | .fileNotJson path => s!"Configuration file must be JSON: {path}"
  | .invalidJson path fault => s!"Invalid JSON in configuration file {path}: {fault.message}"
  | .unreadable path fault => s!"Failed to load configuration file {path}: {fault.message}"
  | .notObject path => s!"Configuration file must contain a JSON object: {path}"
  | .invalidOptions problems => "Invalid NestJS options: " ++ String.intercalate "; " problems

/-- Why no code is generated. -/
inductive Generation where
  | invalidPolicy (shown : String)
  | templateMissing (name : String)
  | noStruct
  | refused (reason : String)
  deriving DecidableEq, Repr

/-- The wording of a failed generation. -/
def Generation.message : Generation → String
  | .invalidPolicy shown => s!"Invalid duplicate_fields setting: {shown}"
  | .templateMissing name => s!"{name} template not found"
  | .noStruct => "No struct definition found in source"
  | .refused reason => reason

/-- Why a template cannot be rendered. -/
inductive Template where
  | unknown (name : String)
  | notInLibrary (name library : String)
  | undecodable (fault : Text.Utf8.Fault)
  | undefined (name : String)
  | undefinedAttribute (kind : Value.Kind) (name : String)
  | reservedName
  | misuse (fault : Value.Misuse)
  deriving DecidableEq, Repr

/-- What is wrong with octets that are no text. -/
def decodingProblem : Text.Utf8.Problem → String
  | .invalidStart => "invalid start byte"
  | .invalidContinuation => "invalid continuation byte"
  | .unexpectedEnd => "unexpected end of data"

/-- The wording of octets that are no text. -/
def decodingMessage (fault : Text.Utf8.Fault) : String :=
  let place :=
    if fault.length = 1 then
      s!"byte 0x{String.ofList (Text.hexDigits 2 fault.lead)} in position {fault.position}"
    else s!"bytes in position {fault.position}-{fault.position + fault.length - 1}"
  s!"'utf-8' codec can't decode {place}: {decodingProblem fault.problem}"

/-- The kind of a value as a template names it. -/
def templateKind : Value.Kind → String
  | .null => "None"
  | kind => kind.label ++ " object"

/-- The wording of a template that cannot be rendered. -/
def Template.message : Template → String
  | .unknown name => name
  | .notInLibrary name library =>
    s!"{Text.quote name} not found in search path: {Text.quote library}"
  | .undecodable fault => decodingMessage fault
  | .undefined name => s!"{Text.quote name} is undefined"
  | .undefinedAttribute kind name =>
    s!"{Text.quote (templateKind kind)} has no attribute {Text.quote name}"
  | .reservedName =>
    "Template.render() got multiple values for argument 'self'"
  | .misuse fault => fault.message

/-- What a registry refuses. -/
inductive Registry where
  | notGenerator
  | aliasTaken (name owner : String)
  | unknownTarget (name : String) (known : List String)
  | invalidConfig (kind : Value.Kind)
  deriving DecidableEq, Repr

/-- The wording of a registry's refusal. -/
def Registry.message : Registry → String
  | .notGenerator => "Generator class must inherit from CodeGenerator"
  | .aliasTaken name owner => s!"Alias '{name}' is already taken by '{owner}'"
  | .unknownTarget name known =>
    s!"No generator registered for target: {name}. Available: " ++ String.intercalate ", " known
  | .invalidConfig kind => s!"Invalid config type: {kind.label}"

/-- Why a source cannot be loaded. -/
inductive Source where
  | directoryMissing (path : Path)
  | directoryUnreadable (path : Path) (fault : FileStore.Fault)
  | notText (path : Path)
  | unreadable (path : Path) (fault : FileStore.Fault)
  deriving DecidableEq, Repr

/-- The wording of a source that cannot be loaded. -/
def Source.message : Source → String
  | .directoryMissing path => s!"Input directory not found: {path}"
  | .directoryUnreadable path fault => s!"Error reading directory {path}: {fault.message}"
  | .notText path => s!"File is not valid UTF-8 text: {path}"
  | .unreadable path fault => s!"Error reading file {path}: {fault.message}"

/-- A call that does not fit what it calls. -/
inductive Call where
  | abstractTarget
  | unknownSetting (name : String)
  | repeatedArgument (callee name : String)
  | fixedTable
  deriving DecidableEq, Repr

/-- The wording of a call that does not fit. -/
def Call.message : Call → String
  | .abstractTarget =>
    "Can't instantiate abstract class CodeGenerator with abstract methods "
      ++ "generate_single_schema, language_name, type_map"
  | .unknownSetting name =>
    s!"GeneratorConfig.__init__() got an unexpected keyword argument '{name}'"
  | .repeatedArgument callee name => s!"{callee}() got multiple values for argument '{name}'"
  | .fixedTable => "'TypeMap' object does not support item assignment"

end Fault

/-- What can go wrong. -/
inductive Fault where
  | tag (fault : FieldTag.Fault)
  | duplicateField (structName fieldName : String)
  | unknownPolicy (shown : String)
  | missingKey (key : String)
  | misuse (fault : Value.Misuse)
  | countTooLarge
  | outOfMemory
  | call (fault : Fault.Call)
  | settings (fault : Fault.Settings)
  | generation (fault : Fault.Generation)
  | template (name : String) (fault : Fault.Template)
  | registry (fault : Fault.Registry)
  | source (fault : Fault.Source)
  | output (path : Path) (fault : FileStore.Fault)
  | json (fault : Json.Fault)
  | decoding (fault : Text.Utf8.Fault)
  | store (fault : FileStore.Fault)
  | glob (fault : Glob.Fault)
  deriving DecidableEq, Repr

namespace Fault

/-- The wording of a fault. -/
def message : Fault → String
  | tag fault => fault.message
  | duplicateField structName fieldName =>
    s!"Duplicate field '{fieldName}' in structure '{structName}'"
  | unknownPolicy shown => s!"{shown} is not a valid DuplicatePolicy"
  | missingKey key => Text.quote key
  | misuse fault => fault.message
  | countTooLarge => "cannot fit 'int' into an index-sized integer"
  | outOfMemory => ""
  | call fault => fault.message
  | settings fault => fault.message
  | generation fault => fault.message
  | template name fault => s!"Failed to render template {name}: {fault.message}"
  | registry fault => fault.message
  | source fault => fault.message
  | output path fault => s!"Cannot create output directory {path}: {fault.message}"
  | json fault => fault.message
  | decoding fault => decodingMessage fault
  | store fault => fault.message
  | glob fault => fault.message

/-- The kind of a limit that a text goes beyond; a malformed text is a bad value. -/
def jsonKind : Json.Fault → Kind
  | .tooDeep _ => .recursion
  | _ => .value

/-- The kind of a fault. -/
def kind : Fault → Kind
  | tag _ => .tag
  | duplicateField .. => .duplicateField
  | unknownPolicy _ => .value
  | missingKey _ => .key
  | misuse fault => fault.faultKind
  | countTooLarge => .overflow
  | outOfMemory => .memory
  | call _ => .type
  | settings _ => .settings
  | generation _ => .generation
  | template .. => .template
  | registry _ => .registry
  | source _ => .source
  | output .. => .output
  | json fault => jsonKind fault
  | decoding _ => .decoding
  | store fault => fault.kind
  | glob fault => fault.kind

end Fault

end StructSchema
