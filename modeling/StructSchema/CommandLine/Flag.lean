/-!
# Flags of the command line

The flags with their spellings. A flag either takes a value or stands alone.
-/

namespace StructSchema.CommandLine

/-- The flags. -/
inductive Flag where
  | help
  | output
  | target
  | config
  | allStructs
  | dryRun
  | showCode
  | verbose
  | noTimestamps
  | noVirtuals
  | duplicateFields
  | listTargets
  deriving DecidableEq, Repr

namespace Flag

/-- The spellings of a flag, the one that is shown first in front. -/
def spellings : Flag → List String
  | help => ["-h", "--help"]
  | output => ["--output", "-o"]
  | target => ["--target", "-t"]
  | config => ["--config"]
  | allStructs => ["--all-structs"]
  | dryRun => ["--dry-run"]
  | showCode => ["--show-code"]
  | verbose => ["--verbose", "-v"]
  | noTimestamps => ["--no-timestamps"]
  | noVirtuals => ["--no-virtuals"]
  | duplicateFields => ["--duplicate-fields"]
  | listTargets => ["--list-targets"]

/-- All flags in order. -/
def all : List Flag :=
  [help, output, target, config, allStructs, dryRun, showCode, verbose, noTimestamps, noVirtuals,
    duplicateFields, listTargets]

/-- Whether a flag takes a value. -/
def takesValue : Flag → Bool
  | output | target | config | duplicateFields => true
  | _ => false

/-- A flag as messages name it. -/
def title (flag : Flag) : String := String.intercalate "/" flag.spellings

/-- All spellings with their flags in order. -/
def table : List (String × Flag) :=
  all.flatMap fun flag => flag.spellings.map fun spelling => (spelling, flag)

/-- The flag of a spelling. -/
def ofSpelling? (spelling : String) : Option Flag := table.lookup spelling

/-- The flag that a letter spells. -/
def ofLetter? (c : Char) : Option Flag := ofSpelling? (String.ofList ['-', c])

/-- Every flag is listed. -/
theorem mem_all (flag : Flag) : flag ∈ all := by cases flag <;> decide

end Flag

end StructSchema.CommandLine
