/-!
# Kinds of faults

Every fault is of one kind. A report names the kind of a failure by its label.
-/

namespace StructSchema.Fault

/-- The kinds of faults. -/
inductive Kind where
  | tag
  | duplicateField
  | generation
  | template
  | settings
  | registry
  | source
  | output
  | value
  | type
  | key
  | member
  | index
  | recursion
  | overflow
  | memory
  | decoding
  | unsupported
  | system
  | fileMissing
  | fileExists
  | notDirectory
  | isDirectory
  deriving DecidableEq, Repr

/-- The label of a kind. -/
def Kind.label : Kind → String
  | .tag => "TagSyntaxError"
  | .duplicateField => "DuplicateFieldError"
  | .generation => "GeneratorError"
  | .template => "TemplateError"
  | .settings => "ConfigError"
  | .registry => "RegistryError"
  | .source => "SourceLoaderError"
  | .output => "OutputError"
  | .value => "ValueError"
  | .type => "TypeError"
  | .key => "KeyError"
  | .member => "AttributeError"
  | .index => "IndexError"
  | .recursion => "RecursionError"
  | .overflow => "OverflowError"
  | .memory => "MemoryError"
  | .decoding => "UnicodeDecodeError"
  | .unsupported => "NotImplementedError"
  | .system => "OSError"
  | .fileMissing => "FileNotFoundError"
  | .fileExists => "FileExistsError"
  | .notDirectory => "NotADirectoryError"
  | .isDirectory => "IsADirectoryError"

end StructSchema.Fault
