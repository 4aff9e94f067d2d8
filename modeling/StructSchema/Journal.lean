/-!
# Journals

What happens is reported as a list of records, each of a level.
-/

namespace StructSchema.Journal

/-- The levels of records. -/
inductive Level where
  | info
  | warning
  | error
  deriving DecidableEq, Repr

/-- The name of a level. -/
def Level.label : Level → String
  | .info => "INFO"
  | .warning => "WARNING"
  | .error => "ERROR"

/-- A report of something that happened. -/
structure Record where
  level : Level
  message : String
  deriving DecidableEq, Repr

/-- The text of a record. -/
protected def Record.toString (record : Record) : String :=
  record.level.label ++ " " ++ record.message

/-- A record of something usual. -/
def info (message : String) : Record := ⟨.info, message⟩

/-- A record of something doubtful. -/
def warning (message : String) : Record := ⟨.warning, message⟩

/-- A record of a failure. -/
def error (message : String) : Record := ⟨.error, message⟩

/-- The name at the top of all journals. -/
def rootName : String := "struct2nest"

/-- The full name of a journal: below the root, unless it is the root or already stands there. -/
def fullName (name : String) : String :=
  if name = rootName ∨ (rootName ++ ".").isPrefixOf name then name else rootName ++ "." ++ name

end StructSchema.Journal
