import StructSchema.Generator.Nest
import StructSchema.Generator.Plain

/-!
# Registries of targets

A registry maps the names of targets, in lower case, to kinds of generators, and further names to
targets. An alias that belongs to another target is refused, and a refused registration changes
nothing. `isSupported_iff` says that a name is supported exactly when it resolves to a target.
-/

namespace StructSchema

/-- The kinds of generators that may be registered. -/
inductive GeneratorClass where
  | nest
  | plain
  | abstract
  deriving DecidableEq, Repr

/-- What may be offered to a registry. -/
inductive Candidate where
  | generator (kind : GeneratorClass)
  | other
  deriving DecidableEq, Repr

/-- The generator of a class for settings. -/
def GeneratorClass.generator : GeneratorClass → Settings → Except Fault Generator
  | .nest, settings => Nest.generator settings
  | .plain, settings => .ok (Plain.generator settings ⟨[]⟩ "" none)
  | .abstract, _ => .error (.call .abstractTarget)

/-- Targets with their generators, and aliases with their targets. -/
structure Registry where
  targets : Dictionary GeneratorClass
  aliases : Dictionary String
  deriving Repr

/-- What the settings of a generator come from. -/
inductive SettingsSource where
  | own (settings : Settings)
  | file (path : Option Path)
  | explicit (entries : Dictionary Value)
  | unusable (kind : Value.Kind)

/-- The source that a value stands for: a text names a file. -/
def SettingsSource.ofValue : Value → SettingsSource
  | .str name => .file (Settings.fileOf name)
  | .object entries => .explicit entries
  | .null => .explicit []
  | other => .unusable other.kind

/-- What is known about a target. -/
structure TargetInfo where
  name : String
  className : String
  fileExtension : Value
  aliases : List String

namespace Registry

/-- The registry without targets. -/
def empty : Registry := ⟨[], []⟩

/-- The names of the targets, sorted. -/
def names (registry : Registry) : List String :=
  registry.targets.keys.mergeSort fun a b => decide (a ≤ b)

/-- The target that owns a name, if it belongs to one. -/
def owner? (registry : Registry) (key : String) : Option String :=
  if registry.targets.contains key then some key else registry.aliases.get? key

/-- The first alias that belongs to another target than `primary`, with its owner. -/
def taken? (registry : Registry) (primary : String) (names : List String) :
    Option (String × String) :=
  names.findSome? fun name =>
    match registry.owner? name with
    | some owner => if owner = primary then none else some (name, owner)
    | none => none

/-- The registry with a target under a name and aliases. -/
def register (registry : Registry) (target : String) (candidate : Candidate)
    (aliases : List String) : Except Fault Registry :=
  match candidate with
  | .other => .error (.registry .notGenerator)
  | .generator kind =>
    let primary := Text.lower target
    let extra := (aliases.map Text.lower).filter (· ≠ primary)
    match registry.taken? primary extra with
    | some (name, owner) => .error (.registry (.aliasTaken name owner))
    | none =>
      .ok ⟨registry.targets.insert primary kind,
        registry.aliases.merge (extra.map fun name => (name, primary))⟩

/-- The target of a name. -/
def resolve (registry : Registry) (name : String) : Except Fault String :=
  match registry.owner? (Text.lower name) with
  | some primary => .ok primary
  | none => .error (.registry (.unknownTarget name registry.names))

/-- Whether a name is that of a target or an alias. -/
def isSupported (registry : Registry) (name : String) : Bool :=
  registry.targets.contains (Text.lower name) || registry.aliases.contains (Text.lower name)

/-- The aliases of a target, sorted. -/
def aliasesOf (registry : Registry) (name : String) : List String :=
  let owned : Dictionary String := registry.aliases.filter (·.2 = Text.lower name)
  (Dictionary.keys owned).mergeSort fun a b => decide (a ≤ b)

/-- The settings of a target from their source. -/
def settingsOf (store : FileStore) (target : String) : SettingsSource → Except Fault Settings
  | .own settings => .ok settings
  | .file path => Settings.load store target [] path
  | .explicit entries => Settings.ofLayers target [] entries
  | .unusable kind => .error (.registry (.invalidConfig kind))

/-- A generator for a target. -/
def create (registry : Registry) (store : FileStore) (name : String) (source : SettingsSource) :
    Except Fault Generator := do
  let primary ← registry.resolve name
  let settings ← settingsOf store primary source
  match registry.targets.get? primary with
  | some kind => kind.generator settings
  | none => .error (.missingKey primary)

/-- What is known about the target of a name. -/
def describe (registry : Registry) (name : String) : Except Fault TargetInfo := do
  let primary ← registry.resolve name
  let generator ← registry.create .empty primary (.explicit [])
  .ok ⟨generator.language, generator.className, generator.fileExtension,
    registry.aliasesOf primary⟩

/-- What is known about all targets. -/
def describeAll (registry : Registry) : Except Fault (List (String × TargetInfo)) :=
  registry.names.mapM fun name => do
    let info ← registry.describe name
    .ok (name, info)

/-- The registry with the targets that are always there. -/
def standard : Registry :=
  ⟨[(Nest.language, .nest)], [("nest", Nest.language), ("mongoose", Nest.language)]⟩

/-- The names that are no options of `quickGenerate`. -/
def reservedNames : List String := ["source", "language"]

/-- Code for the first declaration of a source text. -/
def quickGenerate (registry : Registry) (source language : String) (options : Dictionary Value) :
    Except Fault String := do
  if let some (name, _) := options.find? fun option => reservedNames.contains option.1 then
    throw (.call (.repeatedArgument "quick_generate" name))
  let generator ← registry.create .empty language (.explicit options)
  match StructBlock.first? source with
  | none => throw (.generation .noStruct)
  | some block =>
    match generator.generate block.name block.body with
    | .ok made => .ok made.code
    | .error failure => throw (.generation (.refused failure.message))

/-- A name is supported exactly when it resolves to a target. -/
theorem isSupported_iff (registry : Registry) (name : String) :
    registry.isSupported name = true ↔ ∃ primary, registry.resolve name = .ok primary := by
  unfold isSupported resolve owner?
  cases registry.targets.contains (Text.lower name) with
  | true => simp
  | false =>
    cases ha : Dictionary.get? registry.aliases (Text.lower name) <;>
      simp [Dictionary.contains, ha]

end Registry

end StructSchema
