import StructSchema.Dictionary
import StructSchema.Fault

/-!
# Type tables

A table gives source types their target types. A type that the table does not know stands for
itself: `resolve_of_not_contains`. Tables are never changed in place; `extend` lays entries over a
table, and `get?_extend` says which entry counts then.
-/

namespace StructSchema

/-- Source types with their target types, in order. -/
structure TypeTable where
  entries : Dictionary String
  deriving DecidableEq, Repr

namespace TypeTable

/-- The target type that the table gives a source type. -/
def get? (table : TypeTable) (sourceType : String) : Option String := table.entries.get? sourceType

/-- The target type of a source type: itself, if the table does not know it. -/
def resolve (table : TypeTable) (sourceType : String) : String :=
  (table.get? sourceType).getD sourceType

/-- Whether the table knows a source type. -/
def contains (table : TypeTable) (sourceType : String) : Bool := (table.get? sourceType).isSome

/-- The target type of a source type that has to be in the table. -/
def get (table : TypeTable) (sourceType : String) : Except Fault String :=
  match table.get? sourceType with
  | some target => .ok target
  | none => .error (.missingKey sourceType)

/-- The number of entries. -/
def size (table : TypeTable) : Nat := table.entries.length

/-- The entries sorted by source type. -/
def sorted (table : TypeTable) : List (String × String) :=
  table.entries.mergeSort fun a b => a.1 ≤ b.1

/-- The table with entries laid over it. -/
def extend (table : TypeTable) (extra : Dictionary String) : TypeTable :=
  ⟨table.entries.merge extra⟩

/-- Writing into a table is refused. -/
def assign (_table : TypeTable) (_sourceType _target : String) : Except Fault TypeTable :=
  .error (.call .fixedTable)

/-- The entries that a setting adds: none if it is empty, and each value as its text. -/
def additions? (setting : Value) : Except Fault (Option (Dictionary String)) :=
  if !setting.isTruthy then .ok none
  else
    match setting with
    | .object entries => .ok (some (entries.map fun (key, value) => (key, value.display)))
    | other => .error (.misuse (.notMapping "type_map" other.kind))

/-- The table with the entries of a setting laid over it. -/
def withSetting (table : TypeTable) (setting : Value) : Except Fault TypeTable :=
  (additions? setting).map fun
    | some extra => table.extend extra
    | none => table

/-- The text of a table. -/
protected def toString (table : TypeTable) : String :=
  let entries := table.entries.map fun (key, target) => Text.quote key ++ ": " ++ Text.quote target
  "TypeMap(\x7b" ++ String.intercalate ", " entries ++ "\x7d)"

/-- The target type of every number. -/
def number : String := "Number"

/-- The table of the primitive types. -/
def primitive : TypeTable :=
  ⟨[("string", "String"), ("number", number), ("bool", "Boolean"), ("float32", number),
    ("float64", number), ("int", number), ("int8", number), ("int16", number), ("int32", number),
    ("int64", number), ("uint", number), ("uint8", number), ("uint16", number),
    ("uint32", number), ("uint64", number), ("Time", "Date"), ("Duration", number),
    ("array", "Array")]⟩

/-- A type that the table does not know stands for itself. -/
theorem resolve_of_not_contains {table : TypeTable} {sourceType : String}
    (h : table.contains sourceType = false) : table.resolve sourceType = sourceType := by
  simp only [contains, Option.isSome_eq_false_iff, Option.isNone_iff_eq_none] at h
  simp [resolve, h]

/-- The last entry laid over a table counts. -/
theorem get?_extend (table : TypeTable) (extra : Dictionary String) (sourceType : String) :
    (table.extend extra).get? sourceType =
      (extra.reverse.lookup sourceType).or (table.get? sourceType) :=
  Dictionary.get?_merge table.entries extra sourceType

end TypeTable

end StructSchema
