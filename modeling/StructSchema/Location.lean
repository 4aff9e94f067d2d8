import StructSchema.Path

/-!
# Locations

A location says where an entry stands: the names that lead down to it from a base, which is the
working directory, a directory above it, or the root. What stands above the working directory is
apart from what stands in it, for the name of the working directory in its parent is not known.
`parent_child` says that going up undoes going down, and `namesTo?_eq_some_iff` which names lead
from one location to another.
-/

namespace StructSchema

/-- Where locations begin: so many levels above the working directory, or at the root. -/
inductive Base where
  | above (levels : Nat)
  | root
  deriving DecidableEq, Repr

/-- The names from a base down to an entry. -/
structure Location where
  base : Base
  names : List String
  deriving DecidableEq, Repr

namespace Location

/-- The working directory. -/
def here : Location := ⟨.above 0, []⟩

/-- The root directory. -/
def root : Location := ⟨.root, []⟩

/-- The location of a name in a directory. -/
def child (location : Location) (name : String) : Location :=
  { location with names := location.names ++ [name] }

/-- The location one level up; above the root there is only the root. -/
def parent (location : Location) : Location :=
  match location.names, location.base with
  | [], .above levels => ⟨.above (levels + 1), []⟩
  | [], .root => location
  | _ :: _, _ => { location with names := location.names.dropLast }

/-- Whether a location is the working directory or below it. -/
def isInside (location : Location) : Bool := location.base == .above 0

/-- The names that lead down from one location to another. -/
def namesTo? (location below : Location) : Option (List String) :=
  if location.base = below.base && location.names.isPrefixOf below.names then
    some (below.names.drop location.names.length)
  else none

/-- The path that leads to a location. -/
def path (location : Location) : Path :=
  match location.base with
  | .above levels => ⟨"", List.replicate levels ".." ++ location.names⟩
  | .root => ⟨"/", location.names⟩

instance : ToString Location := ⟨fun location => location.path.toString⟩

/-- Going up undoes going down. -/
@[simp] theorem parent_child (location : Location) (name : String) :
    (location.child name).parent = location := by
  obtain ⟨base, names⟩ := location
  cases names with
  | nil => rfl
  | cons first rest =>
    change (⟨base, (first :: rest ++ [name]).dropLast⟩ : Location) = ⟨base, first :: rest⟩
    rw [List.dropLast_concat]

/-- The names that lead down are those that stand after the names of the upper location. -/
theorem namesTo?_eq_some_iff {location below : Location} {names : List String} :
    location.namesTo? below = some names ↔ below = ⟨location.base, location.names ++ names⟩ := by
  obtain ⟨base, above⟩ := location
  obtain ⟨base', whole⟩ := below
  simp only [namesTo?, Option.ite_none_right_eq_some, Bool.and_eq_true, decide_eq_true_eq,
    List.isPrefixOf_iff_prefix, Option.some.injEq, mk.injEq]
  constructor
  · rintro ⟨⟨rfl, rest, rfl⟩, rfl⟩
    simp
  · rintro ⟨rfl, rfl⟩
    simp

end Location

end StructSchema
