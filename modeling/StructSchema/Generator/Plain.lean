import StructSchema.Generator

/-!
# Plain generators

A generator without templates and rules that writes every model as one text, or refuses every
model with one reason.
-/

namespace StructSchema.Plain

/-- The name of the target. -/
def language : String := "plain"

/-- The generator for settings and a type table that writes `text`, unless there is a reason to
refuse. -/
def generator (settings : Settings) (table : TypeTable) (text : String) (refusal : Option String) :
    Generator where
  className := "PlainGenerator"
  language := language
  settings := settings
  types := table
  rules := []
  templates := []
  emit := fun _ =>
    match refusal with
    | some reason => .error (.generation (.refused reason))
    | none => .ok text
  nameWarnings := fun _ => []

end StructSchema.Plain
