import StructSchema.Text.Lines

/-!
# Property keys and class names

A name of the form of an identifier is its own property key; any other name is put between single
quotes with the quotes and backslashes in it escaped. `unescape_escape` says that the name can be
read back. A class name is warned about when it is no identifier or hides a name that the schema
file uses.
-/

namespace StructSchema

namespace PropertyKey

/-- Whether a character may begin an identifier. -/
def isStart (c : Char) : Bool := c.isAlpha || c == '_' || c == '$'

/-- Whether a character may stand inside an identifier. -/
def isInside (c : Char) : Bool := c.isAlphanum || c == '_' || c == '$'

/-- Whether a text has the form of an identifier; a line feed may follow it. -/
def isIdentifier (text : List Char) : Bool :=
  match Text.dropFinalLineFeed text with
  | [] => false
  | c :: rest => isStart c && rest.all isInside

/-- A text with a backslash before every quote and every backslash. -/
def escape : List Char → List Char
  | [] => []
  | c :: rest => if c = '\\' ∨ c = '\'' then '\\' :: c :: escape rest else c :: escape rest

/-- A text with every backslash dropped that escapes a character. -/
def unescape : List Char → List Char
  | '\\' :: c :: rest => c :: unescape rest
  | c :: rest => c :: unescape rest
  | [] => []

/-- The property key of a name. -/
def ofNameList (name : List Char) : List Char :=
  if isIdentifier name then name else '\'' :: (escape name ++ ['\''])

/-- The property key of a name. -/
def ofName (name : String) : String := String.ofList (ofNameList name.toList)

theorem unescape_cons {c : Char} (h : c ≠ '\\') (rest : List Char) :
    unescape (c :: rest) = c :: unescape rest := by
  rw [unescape]
  intro _ _ hc
  exact absurd hc h

/-- Unescaping gives back what was escaped. -/
@[simp] theorem unescape_escape (text : List Char) : unescape (escape text) = text := by
  induction text with
  | nil => rfl
  | cons c rest ih =>
    by_cases h : c = '\\' ∨ c = '\''
    · rw [escape, if_pos h, unescape, ih]
    · rw [escape, if_neg h, unescape_cons (fun hc => h (.inl hc)), ih]

end PropertyKey

namespace ClassName

/-- The names that the schema file relies on. -/
def used : List String :=
  ["Array", "Boolean", "Date", "Number", "Object", "String", "Schema", "Prop", "SchemaFactory",
    "HydratedDocument", "mongoose"]

/-- The warnings about a class name. -/
def warnings (name : String) : List String :=
  (if PropertyKey.isIdentifier name.toList then []
    else [s!"'{name}' is not a valid TypeScript class name"])
  ++ if used.contains name then [s!"Class name '{name}' shadows a name the schema file uses"]
    else []

end ClassName

end StructSchema
